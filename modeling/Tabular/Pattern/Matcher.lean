import Tabular.Pattern.Reader

set_option autoImplicit false

namespace Tabular

/-- A language of patterns: the texts in which a pattern occurs, if it is well formed. -/
structure PatternReader where
  read? : String → Option (String → Bool)

namespace PatternReader

/-- The patterns of `Pattern.parse?`, which have no classes of Unicode properties. -/
def standard : PatternReader :=
  ⟨fun source => (Pattern.parse? source.toList).map Pattern.occursIn⟩

/-- Matches whole texts: the pattern is read between `^(?:` and `)$`. -/
def whole? (reader : PatternReader) (source : String) : Option (String → Bool) :=
  reader.read? ("^(?:" ++ source ++ ")$")

end PatternReader
end Tabular
