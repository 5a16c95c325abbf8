import InfixLogic.TruthTable.Query
import InfixLogic.Proofs.Order
import InfixLogic.Proofs.TruthTable

/- Columns against rows.

   A column holds a truth value in a row if it is the column's value there and the column fits the
   matrix (`Column.Holds`). A column tells a value of any row, also of one behind the last, if it
   says nothing else of it (`Column.Tells`). Columns that fit combine without a failure, and row by
   row as truth values do, so in each row a run on columns simulates a run on the truth values of the
   row (`column_tells`, `column_simulates`). The column of a name holds the value that the row assigns to the name,
   whether the name is listed once, several times or not at all (`lookup_matrixColumns`).

   So the columns of an expression are what the rows give one after another
   (`Denotes.evaluateColumns`), and they fail as every row does (`evaluateColumns_of_fault`). -/

namespace InfixLogic

/-! ## Columns row by row -/

namespace Column

/-- A column of the assignment matrix. -/
def ofMatrix (n i : Nat) : Column := .rows ((assignmentMatrix n).map fun r => r.getD i false)

/-- Whether a column has a value for each of `n` rows. -/
def Fits (n : Nat) : Column → Prop
  | .constant _ => True
  | .rows bs => bs.length = n

/-- The value of a column in a row. -/
def valueAt (k : Nat) : Column → Bool
  | .constant b => b
  | .rows bs => bs.getD k false

/-- A column of a matrix of `n` rows with a given value in one of them. -/
structure Holds (n k : Nat) (b : Bool) (c : Column) : Prop where
  fits : c.Fits n
  value : c.valueAt k = b

/-- What a column says of a row: a single value speaks for every row, and nothing is said of a row
behind the last. -/
def cell? (k : Nat) : Column → Option Bool
  | .constant b => some b
  | .rows bs => bs[k]?

/-- A column of a matrix of `n` rows that says nothing else of a row than a given value. -/
structure Tells (n k : Nat) (b : Bool) (c : Column) : Prop where
  fits : c.Fits n
  entry : ∀ e ∈ c.cell? k, e = b

variable {n k : Nat}

theorem Tells.negate {b : Bool} {c : Column} (h : c.Tells n k b) : c.negate.Tells n k (!b) := by
  obtain ⟨hfit, hentry⟩ := h
  cases c with
  | constant a =>
    obtain rfl := hentry a rfl
    exact ⟨trivial, by simp [Column.negate, cell?]⟩
  | rows bs =>
    refine ⟨(List.length_map _).trans hfit, fun e he => ?_⟩
    obtain ⟨a, ha, rfl⟩ : ∃ a, bs[k]? = some a ∧ (!a) = e := by
      simpa [Column.negate, cell?, Option.map_eq_some_iff] using he
    rw [hentry a ha]

theorem zipRows_of_length_eq (f : Bool → Bool → Bool) {as bs : List Bool}
    (h : as.length = bs.length) : zipRows f as bs = .ok (as.zipWith f bs) := by
  unfold zipRows
  exact if_pos h

/-- Columns that fit combine, row by row. -/
theorem Tells.combine {f : Bool → Bool → Bool} {a b : Bool} {c d : Column} (hc : c.Tells n k a)
    (hd : d.Tells n k b) :
    Alike (fun f => f) Failure.fault (Tells n k) (.ok (f a b)) (combine f c d) := by
  obtain ⟨hcfit, hcentry⟩ := hc
  obtain ⟨hdfit, hdentry⟩ := hd
  cases c with
  | constant x =>
    obtain rfl := hcentry x rfl
    cases d with
    | constant y =>
      obtain rfl := hdentry y rfl
      exact .ok ⟨trivial, by simp [cell?]⟩
    | rows bs =>
      refine .ok ⟨(List.length_map _).trans hdfit, fun e he => ?_⟩
      obtain ⟨y, hy, rfl⟩ : ∃ y, bs[k]? = some y ∧ f x y = e := by
        simpa [cell?, Option.map_eq_some_iff] using he
      rw [hdentry y hy]
  | rows as =>
    cases d with
    | constant y =>
      obtain rfl := hdentry y rfl
      refine .ok ⟨(List.length_map _).trans hcfit, fun e he => ?_⟩
      obtain ⟨x, hx, rfl⟩ : ∃ x, as[k]? = some x ∧ f x y = e := by
        simpa [cell?, Option.map_eq_some_iff] using he
      rw [hcentry x hx]
    | rows bs =>
      have hlen : as.length = bs.length := Eq.trans hcfit (Eq.symm hdfit)
      rw [Column.combine, zipRows_of_length_eq f hlen]
      refine .ok ⟨?_, fun e he => ?_⟩
      · show (as.zipWith f bs).length = n
        rw [List.length_zipWith, ← hlen, Nat.min_self]
        exact hcfit
      · obtain ⟨x, y, hx, hy, rfl⟩ := List.getElem?_zipWith_eq_some.mp he
        rw [hcentry x hx, hdentry y hy]

/-- In a row of the matrix this is the value of the column there. -/
theorem holds_iff_tells (hk : k < n) {b : Bool} {c : Column} :
    c.Holds n k b ↔ c.Tells n k b := by
  cases c with
  | constant a =>
    exact ⟨fun h => ⟨trivial, fun e he => (Option.some.inj he).symm.trans h.value⟩,
      fun h => ⟨trivial, h.entry a rfl⟩⟩
  | rows bs =>
    constructor
    · rintro ⟨hfit, rfl⟩
      exact ⟨hfit, fun e he => by simp [valueAt, show bs[k]? = some e from he]⟩
    · rintro ⟨hfit, hentry⟩
      obtain rfl : bs.length = n := hfit
      refine ⟨rfl, ?_⟩
      have hvalue := hentry bs[k] (List.getElem?_eq_getElem hk)
      simpa [valueAt, hk] using hvalue

theorem holds_ofMatrix {m i : Nat} (hm : m < 2 ^ n) (hi : i < n) :
    (ofMatrix n i).Holds (2 ^ n) m (m.testBit (n - 1 - i)) := by
  refine ⟨by simp [ofMatrix, Fits], ?_⟩
  simp only [ofMatrix, valueAt, List.getD_eq_getElem?_getD, List.getElem?_map,
    getElem?_assignmentMatrix hm, Option.map_some, Option.getD_some, getElem?_bits hi]

theorem expand_eq {c : Column} (h : c.Fits n) : c.expand n = (List.range n).map c.valueAt := by
  cases c with
  | constant b => simp [expand, valueAt, List.map_const']
  | rows bs =>
    obtain rfl : bs.length = n := h
    refine List.ext_getElem (by simp [expand]) fun i hi _ => ?_
    have hi : i < bs.length := hi
    simp [expand, valueAt, hi]

end Column

theorem column_tells (n k : Nat) : Simulates .truth .column (Column.Tells n k) where
  constant _ := ⟨trivial, by simp [Column.cell?, Interpretation.column, Interpretation.truth]⟩
  negate h := h.negate
  conjoin h h' := h.combine h'
  disjoin h h' := h.combine h'

theorem column_simulates {n k : Nat} (hk : k < n) :
    Simulates .truth .column (Column.Holds n k) := by
  have hsame : Column.Holds n k = Column.Tells n k := by
    funext b c
    exact propext (Column.holds_iff_tells hk)
  rw [hsame]
  exact column_tells n k

/-! ## The rows of a list of names -/

/-- An environment is that of row `m`: each name has its bit of `m`, a repeated name that of its
last place, and a name that is not listed is false. -/
structure Assigns (names : List Text) (m : Nat) (env : Environment) : Prop where
  listed : ∀ before name after, names = before ++ name :: after → name ∉ after →
    env.truth name = m.testBit (names.length - 1 - before.length)
  unlisted : ∀ name, name ∉ names → env.truth name = false

/-- Names bound to what their places give. Of a repeated name the last place comes first. -/
def bindPlaces {β : Type} (g : Nat → β) (names : List Text) : List (Text × β) :=
  (names.zipIdx.map fun p => (p.1, g p.2)).reverse

/-- The environment of row `m`. -/
def Environment.ofRow (names : List Text) (m : Nat) : Environment :=
  bindPlaces (fun i => .bool (m.testBit (names.length - 1 - i))) names

section Lookup
variable {β : Type} (g : Nat → β) {name : Text}

theorem lookup_of_not_mem {names : List Text} (h : name ∉ names) (k : Nat) :
    ((names.zipIdx k).map fun p => (p.1, g p.2)).reverse.lookup name = none := by
  refine List.lookup_eq_none_iff.mpr fun p hp => bne_iff_ne.mpr ?_
  obtain ⟨q, hq, rfl⟩ := List.mem_map.mp (List.mem_reverse.mp hp)
  rintro rfl
  exact h (List.fst_mem_of_mem_zipIdx hq)

theorem lookup_bindPlaces_of_not_mem {names : List Text} (h : name ∉ names) :
    (bindPlaces g names).lookup name = none :=
  lookup_of_not_mem g h 0

theorem lookup_bindPlaces {after : List Text} (h : name ∉ after) (before : List Text) :
    (bindPlaces g (before ++ name :: after)).lookup name = some (g before.length) := by
  rw [bindPlaces, List.zipIdx_append, List.zipIdx_cons, List.map_append, List.map_cons,
    List.reverse_append, List.reverse_cons, List.append_assoc, List.lookup_append,
    lookup_of_not_mem g h]
  simp

end Lookup

variable {names : List Text} {m : Nat}

theorem assigns_ofRow (names : List Text) (m : Nat) : Assigns names m (.ofRow names m) where
  listed := by
    rintro before name after rfl hnot
    rw [Environment.truth, Environment.ofRow, lookup_bindPlaces _ hnot]
    rfl
  unlisted name h := by
    rw [Environment.truth, Environment.ofRow, lookup_bindPlaces_of_not_mem _ h]
    rfl

/-- A row says what every name stands for. -/
theorem Assigns.truth_eq {env env' : Environment} (h : Assigns names m env)
    (h' : Assigns names m env') : env.truth = env'.truth := by
  funext name
  by_cases hmem : name ∈ names
  · obtain ⟨before, after, heq, hnot⟩ := last_of_mem hmem
    rw [h.listed before name after heq hnot, h'.listed before name after heq hnot]
  · rw [h.unlisted name hmem, h'.unlisted name hmem]

/-- Names without repeats have the bits of the row. -/
theorem map_truth_ofRow (h : names.Nodup) (m : Nat) :
    names.map (Environment.ofRow names m).truth = bits names.length m := by
  refine List.ext_getElem (by simp) fun i hi _ => ?_
  have hi : i < names.length := by simpa using hi
  have heq : names = names.take i ++ names[i] :: names.drop (i + 1) := by simp
  have hnot : names[i] ∉ names.drop (i + 1) := by
    rw [heq] at h
    exact (List.nodup_cons.mp (List.nodup_append.mp h).2.1).1
  rw [List.getElem_map, (assigns_ofRow names m).listed _ _ _ heq hnot]
  simp [bits, Nat.min_eq_left hi.le]

/-- Names without repeats have any values at all in some row. -/
theorem exists_row (h : names.Nodup) (value : Text → Bool) :
    ∃ m < 2 ^ names.length, ∀ name ∈ names,
      (Environment.ofRow names m).truth name = value name := by
  obtain ⟨m, hm, hbits⟩ := exists_bits (names.map value)
  rw [List.length_map] at hm hbits
  exact ⟨m, hm, List.map_inj_left.mp ((map_truth_ofRow h m).trans hbits)⟩

/-! ## Expressions -/

namespace Vocabulary

variable {v : Vocabulary} {items : List Item}

theorem matrixColumns_eq (names : List Text) :
    matrixColumns names = bindPlaces (Column.ofMatrix names.length) names := rfl

/-- The column of a name holds what the row assigns to the name. -/
theorem lookup_matrixColumns {env : Environment} (hm : m < 2 ^ names.length)
    (h : Assigns names m env) (name : Text) :
    Column.Holds (2 ^ names.length) m (env.truth name)
      (Column.lookup (matrixColumns names) name) := by
  rw [Column.lookup, matrixColumns_eq]
  by_cases hmem : name ∈ names
  · obtain ⟨before, after, rfl, hnot⟩ := last_of_mem hmem
    rw [lookup_bindPlaces _ hnot, h.listed before name after rfl hnot]
    exact Column.holds_ofMatrix hm (by simp)
  · rw [lookup_bindPlaces_of_not_mem _ hmem, h.unlisted name hmem]
    exact ⟨trivial, rfl⟩

theorem evaluateColumns_eq (v : Vocabulary) (items : List Item) (names : List Text) :
    v.evaluateColumns items names = (do
      let c ← v.evaluateIn .column items (Column.lookup (matrixColumns names))
      pure (c.expand (2 ^ names.length))) := by
  rw [evaluateColumns, length_assignmentMatrix, evaluateIn, bind_assoc]
  rfl

/-- In every row an evaluation of columns is like the evaluation in the environment of the row. -/
theorem alike_column (v : Vocabulary) (items : List Item) {env : Environment}
    (hm : m < 2 ^ names.length) (h : Assigns names m env) :
    Alike (fun f => f) .fault (Column.Holds (2 ^ names.length) m) (v.evaluate items env.truth)
      (v.evaluateIn .column items (Column.lookup (matrixColumns names))) := by
  rw [← evaluateIn_truth]
  exact (column_simulates hm).evaluate fun name _ => lookup_matrixColumns hm h name

theorem evaluateColumns_of_fault {env : Environment} {f : Fault}
    (h : v.evaluate items env.truth = .error f) (names : List Text) :
    v.evaluateColumns items names = .error (.fault f) := by
  have hrow := evaluate_error h (Environment.ofRow names 0).truth
  rw [evaluateColumns_eq,
    (alike_column v items (Nat.two_pow_pos _) (assigns_ofRow names 0)).of_error hrow]
  rfl

theorem Denotes.evaluateColumns {value : (Text → Bool) → Bool} (h : v.Denotes items value)
    (names : List Text) :
    v.evaluateColumns items names = .ok ((List.range (2 ^ names.length)).map fun m =>
      value (Environment.ofRow names m).truth) := by
  have hrow (m : Nat) (hm : m < 2 ^ names.length) :=
    (alike_column v items hm (assigns_ofRow names m)).of_ok (h _)
  obtain ⟨c, hc, hholds⟩ := hrow 0 (Nat.two_pow_pos _)
  rw [evaluateColumns_eq, hc]
  show Except.ok (c.expand _) = _
  rw [Column.expand_eq hholds.fits]
  congr 1
  refine List.map_congr_left fun m hm => ?_
  obtain ⟨d, hd, hholds⟩ := hrow m (List.mem_range.mp hm)
  obtain rfl := Except.ok.inj (hc.symm.trans hd)
  exact hholds.value

/-- Columns are given for the expressions that have a value. -/
theorem denotes_of_evaluateColumns {bs : List Bool}
    (h : v.evaluateColumns items names = .ok bs) :
    ∃ value, v.Denotes items value ∧ bs = (List.range (2 ^ names.length)).map fun m =>
      value (Environment.ofRow names m).truth := by
  rcases v.denotes_or_fails items with ⟨value, hvalue⟩ | ⟨f, hf⟩
  · exact ⟨value, hvalue, Except.ok.inj (h.symm.trans (hvalue.evaluateColumns names))⟩
  · cases h.symm.trans (evaluateColumns_of_fault (hf (Environment.truth [])) names)

/-- Whether an expression has no value in an environment, on account of a failure. -/
def Rejects (v : Vocabulary) (items : List Item) (env : Environment) (F : Failure) : Prop :=
  ∃ f, F = .fault f ∧ v.evaluate items env.truth = .error f

/-- Columns fail as the evaluation in any environment does. -/
theorem evaluateColumns_error_iff (env : Environment) {F : Failure} :
    v.evaluateColumns items names = .error F ↔ v.Rejects items env F := by
  constructor
  · intro h
    rcases v.denotes_or_fails items with ⟨value, hvalue⟩ | ⟨f, hf⟩
    · cases h.symm.trans (hvalue.evaluateColumns names)
    · rw [evaluateColumns_of_fault (hf env.truth)] at h
      exact ⟨f, (Except.error.inj h).symm, hf env.truth⟩
  · rintro ⟨f, rfl, hf⟩
    exact evaluateColumns_of_fault hf names

/-- Over the used variables the columns are the results of the truth table. -/
theorem Denotes.results_truthTable {value : (Text → Bool) → Bool} (h : v.Denotes items value)
    (hne : v.usedVariables items ≠ []) :
    (v.truthTable items).map (·.result) =
      ((List.range (2 ^ (v.usedVariables items).length)).map fun m =>
        value (Environment.ofRow (v.usedVariables items) m).truth).map .truth := by
  have hnodup := (v.usedVariables_ascending items).nodup
  rw [truthTable_eq hne, assignmentMatrix, List.map_map, List.map_map, List.map_map]
  refine List.map_congr_left fun m _ => ?_
  have hcongr := h.congr fun n hn =>
    Environment.truth_ofBools_zip hn (Environment.ofRow (v.usedVariables items) m).truth
  rw [map_truth_ofRow hnodup] at hcongr
  simp only [Function.comp_apply, row, h _, hcongr]

end Vocabulary

open Vocabulary (standard)

/-- Evaluating columns fails as every evaluation of the expression does, and else gives for each
row the value in the environment of the row. Over the used variables these are the results of the
truth table. -/
theorem evaluateColumns_rows (v : Vocabulary) (items : List Item) (names : List Text) :
    (∀ (env : Environment) (F : Failure),
        v.evaluateColumns items names = .error F ↔ v.Rejects items env F) ∧
      (∀ bs, v.evaluateColumns items names = .ok bs →
        bs.length = 2 ^ names.length ∧
          ∀ m < 2 ^ names.length, (∃ env, Assigns names m env) ∧
            ∀ env, Assigns names m env →
              ∃ b, bs[m]? = some b ∧ v.evaluate items env.truth = .ok b) ∧
      (v.usedVariables items ≠ [] → ∀ bs,
        v.evaluateColumns items (v.usedVariables items) = .ok bs →
          (v.truthTable items).map (·.result) = bs.map .truth) := by
  refine ⟨fun env F => Vocabulary.evaluateColumns_error_iff env, fun bs hbs => ?_,
    fun hne bs hbs => ?_⟩
  · obtain ⟨value, hvalue, rfl⟩ := Vocabulary.denotes_of_evaluateColumns hbs
    refine ⟨by simp, fun m hm => ⟨⟨_, assigns_ofRow names m⟩, fun env henv => ?_⟩⟩
    refine ⟨value env.truth, ?_, hvalue _⟩
    rw [henv.truth_eq (assigns_ofRow names m)]
    simp [hm]
  · obtain ⟨value, hvalue, rfl⟩ := Vocabulary.denotes_of_evaluateColumns hbs
    exact hvalue.results_truthTable hne

/-- The cases of `A || B` for A listed twice and B not at all, and for the used variables. -/
theorem evaluateColumns_rows_repeated :
    (∀ env, Assigns ["A", "A"] 2 env → ∃ b, [false, true, false, true][2]? = some b ∧
        standard.evaluate (Token.items [.variable "A", standard.operator .or, .variable "B"])
          env.truth = .ok b) ∧
      (standard.truthTable (Token.items [.variable "A", standard.operator .or,
        .variable "B"])).map (·.result) = [false, true, true, true].map .truth := by
  have hrepeated : standard.evaluateColumns
      (Token.items [.variable "A", standard.operator .or, .variable "B"]) ["A", "A"] =
        .ok [false, true, false, true] := rfl
  have h := evaluateColumns_rows standard
    (Token.items [.variable "A", standard.operator .or, .variable "B"]) ["A", "A"]
  exact ⟨((h.2.1 _ hrepeated).2 2 (by decide)).2, h.2.2 (by decide) _ rfl⟩

end InfixLogic
