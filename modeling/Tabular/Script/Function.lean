set_option autoImplicit false

namespace Tabular

inductive ScalarFunction where
  | length
  | upper
  | lower
  | trim
  | ltrim
  | rtrim
  | substr
  | replace
  | instr
  | matchCharacters
  | abs
  | ceil
  | floor
  | round
  | trunc
  | sqrt
  | exp
  | ln
  | log
  | power
  | mod
  | isNull
  | nvl
  | between
  | currentDate
  | levenshtein
  deriving DecidableEq, Repr

namespace ScalarFunction

def all : List ScalarFunction :=
  [.length, .upper, .lower, .trim, .ltrim, .rtrim, .substr, .replace, .instr, .matchCharacters,
   .abs, .ceil, .floor, .round, .trunc, .sqrt, .exp, .ln, .log, .power, .mod, .isNull, .nvl,
   .between, .currentDate, .levenshtein]

def name : ScalarFunction → String
  | .length => "length"
  | .upper => "upper"
  | .lower => "lower"
  | .trim => "trim"
  | .ltrim => "ltrim"
  | .rtrim => "rtrim"
  | .substr => "substr"
  | .replace => "replace"
  | .instr => "instr"
  | .matchCharacters => "match_characters"
  | .abs => "abs"
  | .ceil => "ceil"
  | .floor => "floor"
  | .round => "round"
  | .trunc => "trunc"
  | .sqrt => "sqrt"
  | .exp => "exp"
  | .ln => "ln"
  | .log => "log"
  | .power => "power"
  | .mod => "mod"
  | .isNull => "isnull"
  | .nvl => "nvl"
  | .between => "between"
  | .currentDate => "current_date"
  | .levenshtein => "levenshtein"

end ScalarFunction

inductive TimeSeriesFunction where
  | periodIndicator
  | fillTimeSeries
  | flowToStock
  | stockToFlow
  | timeshift
  | timeAgg
  deriving DecidableEq, Repr

namespace TimeSeriesFunction

def all : List TimeSeriesFunction :=
  [.periodIndicator, .fillTimeSeries, .flowToStock, .stockToFlow, .timeshift, .timeAgg]

def name : TimeSeriesFunction → String
  | .periodIndicator => "period_indicator"
  | .fillTimeSeries => "fill_time_series"
  | .flowToStock => "flow_to_stock"
  | .stockToFlow => "stock_to_flow"
  | .timeshift => "timeshift"
  | .timeAgg => "time_agg"

end TimeSeriesFunction

inductive Function where
  | scalar (f : ScalarFunction)
  | timeSeries (f : TimeSeriesFunction)
  deriving DecidableEq, Repr

namespace Function

def all : List Function := ScalarFunction.all.map .scalar ++ TimeSeriesFunction.all.map .timeSeries

def name : Function → String
  | .scalar f => f.name
  | .timeSeries f => f.name

end Function
end Tabular
