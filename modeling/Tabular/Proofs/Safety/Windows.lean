import Tabular.Proofs.Cells
import Tabular.Proofs.Keys
import Tabular.Proofs.Safety.Values

set_option autoImplicit false

namespace Tabular

namespace WindowFunction

theorem foldl_choice {pick : Value → Value → Value} (h : ∀ a b, pick a b = a ∨ pick a b = b)
    (v : Value) (vs : List Value) : vs.foldl pick v ∈ v :: vs := by
  induction vs generalizing v with
  | nil => exact List.mem_singleton.2 rfl
  | cons w vs ih =>
    have hm := ih (pick v w)
    rw [List.foldl_cons]
    rcases List.mem_cons.1 hm with he | hm
    · rw [he]
      rcases h v w with h | h
      · rw [h]
        exact List.mem_cons_self ..
      · rw [h]
        exact List.mem_cons_of_mem _ (List.mem_cons_self ..)
    · exact List.mem_cons_of_mem _ (List.mem_cons_of_mem _ hm)

theorem least_mem {vs : List Value} {v : Value} (h : least vs = some v) : v ∈ vs := by
  cases vs with
  | nil => cases h
  | cons w vs =>
    cases h
    refine foldl_choice (fun a b => ?_) w vs
    split
    · exact .inr rfl
    · exact .inl rfl

theorem greatest_mem {vs : List Value} {v : Value} (h : greatest vs = some v) : v ∈ vs := by
  cases vs with
  | nil => cases h
  | cons w vs =>
    cases h
    refine foldl_choice (fun a b => ?_) w vs
    split
    · exact .inl rfl
    · exact .inr rfl

theorem getD_conforms {t : ScalarType} {frame : List Value}
    (hv : ∀ v ∈ frame, v.conforms t = true) {o : Option Value} (ho : ∀ v, o = some v → v ∈ frame) :
    (o.getD .null).conforms t = true := by
  cases o with
  | none => exact Value.conforms_null t
  | some v => exact hv v (ho v rfl)

theorem sampled_conforms (xs : List Number) (f : List Number → Number) :
    (sampled xs f).conforms .number = true := by
  unfold sampled
  split <;> rfl

theorem safe_sum {t : ScalarType} (ht : t.isNumeric = true) (frame : List Value)
    (xs : List Number) :
    Safe (fun v => v.conforms t = true) (aggregateNumbers .sum frame xs t) := by
  unfold aggregateNumbers
  dsimp only
  split
  · rename_i hi
    subst hi
    split
    · exact rfl
    · trivial
  · rename_i hi
    cases t with
    | number => exact rfl
    | integer => exact absurd rfl hi
    | _ => cases ht

theorem safe_aggregateNumbers {f : WindowFunction} {t : ScalarType} (hi : f.isImplemented = true)
    (hf : f.requiresNumeric = true) (ht : t.isNumeric = true) (frame : List Value)
    (xs : List Number) :
    Safe (fun v => v.conforms (f.result t) = true) (aggregateNumbers f frame xs t) := by
  cases f with
  | sum => exact safe_sum ht frame xs
  | varSamp => exact sampled_conforms xs _
  | stddevSamp => exact sampled_conforms xs _
  | avg | median | varPop | stddevPop => exact rfl
  | count | min | max | firstValue | lastValue => cases hf
  | lag | lead | ratioToReport => cases hi

theorem safe_aggregate {f : WindowFunction} {frame : List Value} {t : ScalarType}
    (hi : f.isImplemented = true) (hn : f.requiresNumeric = true → t.isNumeric = true)
    (hv : ∀ v ∈ frame, v.conforms t = true) :
    Safe (fun v => v.conforms (f.result t) = true) (f.aggregate frame t) := by
  by_cases hf : f.requiresNumeric = true
  · have hcase : f.aggregate frame t = if (frame.filterMap Value.number?).isEmpty then .ok .null
        else aggregateNumbers f frame (frame.filterMap Value.number?) t := by
      cases f <;> first | rfl | cases hf
    rw [hcase]
    split
    · exact Value.conforms_null _
    · exact safe_aggregateNumbers hi hf (hn hf) frame _
  · cases f with
    | count => exact rfl
    | firstValue => exact getD_conforms hv fun v h => List.mem_of_head? h
    | lastValue => exact getD_conforms hv fun v h => List.mem_of_getLast? h
    | min => exact getD_conforms hv fun v h => List.mem_of_mem_filter (least_mem h)
    | max => exact getD_conforms hv fun v h => List.mem_of_mem_filter (greatest_mem h)
    | _ => exact absurd rfl hf

end WindowFunction

namespace Window

/-- The function applies to the component: it has a meaning, the columns it needs are there, and
    the type of the component is one it admits. -/
structure Applies (s : Schema) (c : WindowCall) (measure : Component) : Prop where
  source : s.get? c.source = some measure
  implemented : c.function.isImplemented = true
  numeric : c.function.requiresNumeric = true → measure.type.isNumeric = true
  partitions : ∀ n ∈ c.partitionBy, n ∈ s.names
  orders : ∀ o ∈ c.orderBy, o.component ∈ s.names

theorem mem_of_mem_slice {α : Type} {f : Frame} {xs : List α} {a : α} (h : a ∈ f.slice xs) :
    a ∈ xs :=
  List.mem_of_mem_drop (List.mem_of_mem_take h)

section
variable {c : WindowCall} {t : ScalarType} {source : Nat}

def Sourced (t : ScalarType) (source : Nat) (members : List Member) : Prop :=
  ∀ m ∈ members, (Row.cell m.2 source).conforms t = true

def Resulting (c : WindowCall) (t : ScalarType) (results : List (Nat × Value)) : Prop :=
  ∀ p ∈ results, p.2.conforms (c.function.result t) = true

theorem safe_evaluateFrom (hi : c.function.isImplemented = true)
    (hn : c.function.requiresNumeric = true → t.isNumeric = true) {sorted : List Member}
    (hs : Sourced t source sorted) (frame : Nat → Frame) (pos : Nat) (rest : List Member) :
    Safe (Resulting c t) (evaluateFrom c.function t source sorted frame pos rest) := by
  induction rest generalizing pos with
  | nil => exact fun _ hp => absurd hp List.not_mem_nil
  | cons m rest ih =>
    rw [evaluateFrom]
    refine (WindowFunction.safe_aggregate hi hn fun v hv => ?_).bind fun v hv => ?_
    · obtain ⟨n, hm, rfl⟩ := List.mem_map.1 hv
      exact hs n (mem_of_mem_slice hm)
    · exact (ih (pos + 1)).bind fun vs hvs => List.forall_mem_cons.2 ⟨hv, hvs⟩

theorem safe_rangeKeys (f : WindowFunction) (w : Option Window) (columns : SortColumns)
    (sorted : List Member) : Safe (fun _ => True) (rangeKeys f w columns sorted) := by
  unfold rangeKeys
  split <;> trivial

theorem safe_evaluatePartition (hi : c.function.isImplemented = true)
    (hn : c.function.requiresNumeric = true → t.isNumeric = true) (columns : SortColumns)
    {members : List Member} (hs : Sourced t source members) :
    Safe (Resulting c t) (evaluatePartition c t source columns members) := by
  unfold evaluatePartition
  refine (safe_rangeKeys _ _ _ _).bind fun keys _ => safe_evaluateFrom hi hn ?_ _ _ _
  exact fun m hm => hs m ((Sorting.sort_perm _ members).mem_iff.1 hm)

theorem safe_evaluatePartitions (hi : c.function.isImplemented = true)
    (hn : c.function.requiresNumeric = true → t.isNumeric = true) (columns : SortColumns)
    {partitions : Keyed (List Member)} (hs : ∀ p ∈ partitions, Sourced t source p.2) :
    Safe (Resulting c t) (evaluatePartitions c t source columns partitions) := by
  induction partitions with
  | nil => exact fun _ hp => absurd hp List.not_mem_nil
  | cons p rest ih =>
    obtain ⟨hp, hrest⟩ := List.forall_mem_cons.1 hs
    rw [evaluatePartitions]
    refine (safe_evaluatePartition hi hn columns hp).bind fun vs hvs => ?_
    exact (ih hrest).bind fun ws hws => List.forall_mem_append.2 ⟨hvs, hws⟩

end

theorem exists_sortColumns {s : Schema} {orders : List OrderItem}
    (h : ∀ o ∈ orders, o.component ∈ s.names) : ∃ columns, sortColumns s orders = .ok columns := by
  induction orders with
  | nil => exact ⟨[], rfl⟩
  | cons o orders ih =>
    obtain ⟨ho, h⟩ := List.forall_mem_cons.1 h
    obtain ⟨i, hi⟩ := Schema.exists_indexOf? ho
    obtain ⟨columns, hc⟩ := ih h
    refine ⟨(i, o.descending) :: columns, ?_⟩
    rw [sortColumns, Schema.position_ok.2 hi, hc]
    rfl

theorem arrange_conforms {t : ScalarType} {results : List (Nat × Value)}
    (h : ∀ p ∈ results, p.2.conforms t = true) (len : Nat) :
    ∀ v ∈ arrange len results, v.conforms t = true := by
  intro v hv
  obtain ⟨i, _, rfl⟩ := List.mem_map.1 hv
  cases hf : results.find? (·.1 == i) with
  | none => exact Value.conforms_null t
  | some p => exact h p (List.mem_of_find?_eq_some hf)

theorem safe_evaluate {s : Schema} {c : WindowCall} {measure : Component}
    (h : Applies s c measure) {rows : List Row}
    (hrows : ∀ r ∈ rows, (s.read r measure.name).conforms measure.type = true) :
    Safe (fun vs => ∀ v ∈ vs, v.conforms (c.function.result measure.type) = true)
      (evaluate rows s c) := by
  obtain ⟨hm, hname⟩ := Schema.get?_eq_some.1 h.source
  obtain ⟨source, hi⟩ := List.getElem?_of_mem hm
  have hx := Schema.indexOf?_of_getElem? hi
  obtain ⟨columns, hc⟩ := Schema.exists_positions h.partitions
  obtain ⟨orders, ho⟩ := exists_sortColumns h.orders
  unfold evaluate
  rw [← hname, Schema.position_ok.2 hx, hc, ho]
  change Safe _ (evaluatePartitions c ((s.components[source]?.map (·.type)).getD .number) source
    orders (Keyed.group (fun m => Row.key m.2 columns) (number rows)) >>= fun results =>
      pure (arrange rows.length results))
  rw [hi]
  refine (safe_evaluatePartitions h.implemented h.numeric orders ?_).bind fun results hr =>
    arrange_conforms hr rows.length
  intro p hp m hmem
  have hin := (Keyed.grouped_group (fun m : Member => Row.key m.2 columns) (number rows)).members
    p hp m hmem
  have hr := hrows m.2 (List.of_mem_zip (a := m.1) hin).2
  rwa [Schema.read_of_indexOf? hx] at hr

end Window
end Tabular
