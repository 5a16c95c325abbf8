import Mathlib.Data.List.TakeWhile
import Mathlib.Data.List.Induction
import InfixLogic.Assignment
import InfixLogic.Proofs.Stages

/- Assignments one after another.

   `Assigns` says what an item assigns and `Illformed` what is wrong with one that assigns nothing;
   both are said of the two sides of its first equals sign, and every item is of one kind
   (`ofText_ok_iff`, `ofText_error_iff`). A list is refused at its first ill-formed item
   (`parse_error_iff`).

   One more item sets one name and leaves the others alone. So a list that is not refused gives each
   name what the last item that names it says (`lastValue`, `parse_eq`), and this depends on nothing
   but the items of each name in their order. That the last item wins (`lastWins_of_parse`), that
   more items override (`parse_append_ok`) and that items of different names may change places
   (`parse_perm`) follows from it. -/

namespace InfixLogic

namespace Assignment

/-- The words for a truth value. -/
def words : Bool → List Text
  | true => trueWords
  | false => falseWords

/-- The name in front of the first equals sign of an item. -/
def target (item : Text) : Text := Text.upper (Text.trim (item.takeWhile (· != .char '=')))

/-- What an item assigns to one of some names: in front of its first equals sign stands the name,
and behind it a word for the truth value. -/
inductive Assigns (names : List Text) : Text → Text × Bool → Prop where
  | intro {left right : Text} {b : Bool} (first : .char '=' ∉ left)
      (name : Text.upper (Text.trim left) ∈ names)
      (word : Text.lower (Text.trim right) ∈ words b) :
      Assigns names (left ++ .char '=' :: right) (Text.upper (Text.trim left), b)

/-- What is wrong with an item: it has no equals sign, or something else than a name stands in front
of it, or something else than a word for a truth value behind it. -/
inductive Illformed (names : List Text) : Text → AssignmentFault → Prop where
  | unsigned {item : Text} (h : .char '=' ∉ item) :
      Illformed names item (.notAssignment item names)
  | unnamed {left right : Text} (first : .char '=' ∉ left)
      (name : Text.upper (Text.trim left) ∉ names) :
      Illformed names (left ++ .char '=' :: right)
        (.notAssignment (left ++ .char '=' :: right) names)
  | untrue {left right : Text} (first : .char '=' ∉ left)
      (name : Text.upper (Text.trim left) ∈ names)
      (word : ∀ b, Text.lower (Text.trim right) ∉ words b) :
      Illformed names (left ++ .char '=' :: right)
        (.notTruth (Text.lower (Text.trim right)) (Text.upper (Text.trim left)))

/-- Each of the names has the truth value of the last item that names it, and false if none does. -/
structure LastWins (names items : List Text) (env : List (Text × Bool)) : Prop where
  keys : env.map (·.1) = names
  never : ∀ n ∈ names, (∀ i ∈ items, target i ≠ n) → env.lookup n = some false
  last : ∀ before item after n b, items = before ++ item :: after → Assigns names item (n, b) →
    (∀ i ∈ after, target i ≠ n) → env.lookup n = some b

variable {names items xs ys : List Text} {item name : Text} {b : Bool} {f : AssignmentFault}
  {p : Text × Bool} {inputs env : List (Text × Bool)}

/-! ## One item -/

theorem split_cases (item : Text) :
    .char '=' ∉ item ∨ ∃ left right, item = left ++ .char '=' :: right ∧ .char '=' ∉ left := by
  by_cases h : CodePoint.char '=' ∈ item
  · obtain ⟨left, right, hsplit, hfirst⟩ := List.eq_append_cons_of_mem h
    exact .inr ⟨left, right, hsplit, hfirst⟩
  · exact .inl h

theorem truth?_eq_some_iff {word : Text} : truth? word = some b ↔ word ∈ words b := by
  -- No word stands for both truth values.
  have hfalse : ∀ w ∈ falseWords, w ∉ trueWords := by decide
  unfold truth?
  by_cases ht : word ∈ trueWords
  · have hno : word ∉ falseWords := fun hf => hfalse word hf ht
    cases b <;> simp [words, ht, hno]
  · by_cases hf : word ∈ falseWords <;> cases b <;> simp [words, ht, hf]

theorem truth?_eq_none_iff {word : Text} : truth? word = none ↔ ∀ b, word ∉ words b := by
  simp only [← truth?_eq_some_iff, Option.eq_none_iff_forall_ne_some, ne_eq]

theorem bne_sign {t : Text} (h : .char '=' ∉ t) : ∀ c ∈ t, (c != .char '=') = true := fun _ hc =>
  bne_iff_ne.mpr fun he => h (he ▸ hc)

theorem target_append {left : Text} (h : .char '=' ∉ left) (right : Text) :
    target (left ++ .char '=' :: right) = Text.upper (Text.trim left) := by
  simp [target, List.takeWhile_append_of_pos (bne_sign h)]

theorem ofText_unsigned (names : List Text) (h : .char '=' ∉ item) :
    ofText names item = .error (.notAssignment item names) := by
  simp only [ofText, List.dropWhile_eq_nil_iff.mpr (bne_sign h)]

/-- An item with an equals sign is judged by its two sides, the name first. -/
theorem ofText_append (names : List Text) {left : Text} (h : .char '=' ∉ left) (right : Text) :
    ofText names (left ++ .char '=' :: right) =
      if Text.upper (Text.trim left) ∈ names then
        (truth? (Text.lower (Text.trim right))).elim
          (.error (.notTruth (Text.lower (Text.trim right)) (Text.upper (Text.trim left))))
          fun b => .ok (Text.upper (Text.trim left), b)
      else .error (.notAssignment (left ++ .char '=' :: right) names) := by
  have hdrop : (left ++ .char '=' :: right).dropWhile (· != .char '=') = .char '=' :: right := by
    simp [List.dropWhile_append_of_pos (bne_sign h)]
  have htarget := target_append h right
  unfold target at htarget
  simp only [ofText, hdrop, htarget]
  by_cases hname : Text.upper (Text.trim left) ∈ names
  · cases truth? (Text.lower (Text.trim right)) <;> simp [hname]
  · simp [hname]

theorem ofText_ok_iff : ofText names item = .ok p ↔ Assigns names item p := by
  constructor
  · intro h
    rcases split_cases item with hno | ⟨left, right, rfl, hfirst⟩
    · cases (ofText_unsigned names hno).symm.trans h
    · rw [ofText_append names hfirst] at h
      split at h
      · next hname =>
        cases hword : truth? (Text.lower (Text.trim right)) with
        | none => rw [hword] at h; cases h
        | some b =>
          rw [hword] at h
          obtain rfl := Except.ok.inj h
          exact .intro hfirst hname (truth?_eq_some_iff.mp hword)
      · cases h
  · rintro ⟨hfirst, hname, hword⟩
    rw [ofText_append names hfirst, if_pos hname, truth?_eq_some_iff.mpr hword]
    rfl

theorem ofText_error_iff : ofText names item = .error f ↔ Illformed names item f := by
  constructor
  · intro h
    rcases split_cases item with hno | ⟨left, right, rfl, hfirst⟩
    · rw [ofText_unsigned names hno] at h
      exact Except.error.inj h ▸ .unsigned hno
    · rw [ofText_append names hfirst] at h
      split at h
      · next hname =>
        cases hword : truth? (Text.lower (Text.trim right)) with
        | none =>
          rw [hword] at h
          exact Except.error.inj h ▸ .untrue hfirst hname (truth?_eq_none_iff.mp hword)
        | some b => rw [hword] at h; cases h
      · next hname => exact Except.error.inj h ▸ .unnamed hfirst hname
  · intro h
    cases h with
    | unsigned hno => exact ofText_unsigned names hno
    | unnamed hfirst hname => rw [ofText_append names hfirst, if_neg hname]
    | untrue hfirst hname hword =>
      rw [ofText_append names hfirst, if_pos hname, truth?_eq_none_iff.mpr hword]
      rfl

/-- An item is ill-formed if it assigns nothing. -/
theorem illformed_iff : (∃ f, Illformed names item f) ↔ ¬ ∃ p, Assigns names item p := by
  simp only [← ofText_error_iff, ← ofText_ok_iff]
  cases ofText names item <;> simp

theorem Assigns.target_eq (h : Assigns names item (name, b)) : target item = name := by
  generalize hp : (name, b) = p at h
  cases h with
  | intro first =>
    obtain ⟨rfl, -⟩ := Prod.mk.inj hp
    exact target_append first _

theorem Assigns.mem (h : Assigns names item (name, b)) : name ∈ names := by
  generalize hp : (name, b) = p at h
  cases h with
  | intro _ hname =>
    obtain ⟨rfl, -⟩ := Prod.mk.inj hp
    exact hname

/-! ## Lists of items -/

theorem map_fst_set (name : Text) (b : Bool) (inputs : List (Text × Bool)) :
    (set name b inputs).map (·.1) = inputs.map (·.1) := by
  rw [set, List.map_map]
  refine List.map_congr_left fun p _ => ?_
  by_cases h : p.1 = name <;> simp [h]

/-- Assignments give truth values to the names, in their order. -/
theorem map_fst_update (h : update inputs items = .ok env) :
    env.map (·.1) = inputs.map (·.1) := by
  induction items generalizing inputs with
  | nil =>
    obtain rfl := Except.ok.inj h
    rfl
  | cons item items ih =>
    obtain ⟨⟨name, b⟩, -, hrest⟩ := bind_ok.mp h
    exact (ih hrest).trans (map_fst_set name b inputs)

theorem map_fst_parse (h : parse names items = .ok env) : env.map (·.1) = names := by
  simpa [Function.comp_def] using map_fst_update h

theorem update_append (inputs : List (Text × Bool)) (xs ys : List Text) :
    update inputs (xs ++ ys) = update inputs xs >>= fun env => update env ys := by
  induction xs generalizing inputs with
  | nil => rfl
  | cons x xs ih =>
    rw [List.cons_append, update, update, bind_assoc]
    exact congrArg _ (funext fun p => ih (set p.1 p.2 inputs))

theorem parse_append (names xs ys : List Text) :
    parse names (xs ++ ys) = parse names xs >>= fun env => update env ys :=
  update_append _ xs ys

/-- The items are read one after another, and what they assign is carried out in this order. -/
theorem update_eq (inputs : List (Text × Bool)) (items : List Text) :
    update inputs items =
      items.mapM (ofText (inputs.map (·.1))) >>= fun ps =>
        pure (ps.foldl (fun env p => set p.1 p.2 env) inputs) := by
  induction items generalizing inputs with
  | nil => rfl
  | cons item items ih =>
    rw [update, List.mapM_cons, bind_assoc]
    refine congrArg _ (funext fun p => ?_)
    show update (set p.1 p.2 inputs) items = _
    rw [ih, map_fst_set, bind_assoc]
    rfl

/-- A list is refused as its first ill-formed item is. -/
theorem parse_error_iff : parse names items = .error f ↔
    ∃ before item after, items = before ++ item :: after ∧
      (∀ i ∈ before, ∃ p, Assigns names i p) ∧ Illformed names item f := by
  have hnames : (names.map fun n => (n, false)).map (·.1) = names := by simp [Function.comp_def]
  rw [parse, update_eq, bind_pure_error, mapM_error_iff, hnames]
  simp only [ofText_ok_iff, ofText_error_iff]

theorem assigns_of_parse (h : parse names items = .ok env) (hitem : item ∈ items) :
    ∃ p, Assigns names item p := by
  obtain ⟨xs, ys, rfl⟩ := List.append_of_mem hitem
  rw [parse_append] at h
  obtain ⟨e, he, hrest⟩ := bind_ok.mp h
  obtain ⟨p, hp, -⟩ := bind_ok.mp hrest
  exact ⟨p, ofText_ok_iff.mp (map_fst_parse he ▸ hp)⟩

/-! ## The last item that names a name -/

/-- What the word behind the first equals sign of an item stands for. -/
def said (item : Text) : Option Bool :=
  truth? (Text.lower (Text.trim (item.dropWhile (· != .char '=')).tail))

theorem Assigns.said_eq (h : Assigns names item (name, b)) : said item = some b := by
  generalize hp : (name, b) = p at h
  cases h with
  | intro first _ word =>
    obtain ⟨-, rfl⟩ := Prod.mk.inj hp
    simp [said, List.dropWhile_append_of_pos (bne_sign first), truth?_eq_some_iff.mpr word]

/-- What the last item that names a name says of it. -/
def lastValue (items : List Text) (name : Text) : Bool :=
  ((items.filter (target · == name)).getLast?.bind said).getD false

theorem filter_target_eq_nil : items.filter (target · == name) = [] ↔ name ∉ items.map target := by
  simp [List.filter_eq_nil_iff]

theorem lastValue_of_notMem (h : name ∉ items.map target) : lastValue items name = false := by
  rw [lastValue, filter_target_eq_nil.mpr h]
  rfl

/-- Items that come later override those names that they name. -/
theorem lastValue_append (xs ys : List Text) (name : Text) :
    lastValue (xs ++ ys) name =
      if name ∈ ys.map target then lastValue ys name else lastValue xs name := by
  rw [lastValue, List.filter_append, List.getLast?_append]
  split
  · next h =>
    obtain ⟨i, hi⟩ := Option.isSome_iff_exists.mp
      (List.getLast?_isSome.mpr (mt filter_target_eq_nil.mp (not_not_intro h)))
    rw [lastValue, hi]
    rfl
  · next h =>
    rw [filter_target_eq_nil.mpr h]
    rfl

theorem lastValue_singleton (h : Assigns names item (name, b)) : lastValue [item] name = b := by
  simp [lastValue, h.target_eq, h.said_eq]

/-- Items that all assign something leave each name with what the last one says of it. -/
theorem parse_eq (h : ∀ i ∈ items, ∃ p, Assigns names i p) :
    parse names items = .ok (names.map fun n => (n, lastValue items n)) := by
  -- The induction takes items off at the end: the last one has the last word on its name.
  induction items using List.reverseRecOn with
  | nil => rfl
  | append_singleton items item ih =>
    obtain ⟨⟨name, b⟩, hitem⟩ := h item (by simp)
    have hnames : (names.map fun n => (n, lastValue items n)).map (·.1) = names := by
      simp [Function.comp_def]
    rw [parse_append, ih fun i hi => h i (List.mem_append_left _ hi)]
    show update _ [item] = _
    rw [update, hnames, ofText_ok_iff.mpr hitem]
    refine congrArg Except.ok ?_
    rw [set, List.map_map]
    refine List.map_congr_left fun n _ => ?_
    rw [lastValue_append]
    by_cases hn : n = name
    · subst hn
      simp [hitem.target_eq, lastValue_singleton hitem]
    · simp [hitem.target_eq, hn]

theorem parse_ok_iff : parse names items = .ok env ↔
    (∀ i ∈ items, ∃ p, Assigns names i p) ∧ env = names.map fun n => (n, lastValue items n) := by
  constructor
  · intro h
    have hall : ∀ i ∈ items, ∃ p, Assigns names i p := fun i hi => assigns_of_parse h hi
    exact ⟨hall, Except.ok.inj (h.symm.trans (parse_eq hall))⟩
  · rintro ⟨hall, rfl⟩
    exact parse_eq hall

/-- A list is refused exactly if one of its items is ill-formed. -/
theorem parse_fails_iff : (∃ f, parse names items = .error f) ↔
    ∃ item ∈ items, ∃ f, Illformed names item f := by
  constructor
  · rintro ⟨f, h⟩
    obtain ⟨before, item, after, rfl, -, hill⟩ := parse_error_iff.mp h
    exact ⟨item, by simp, f, hill⟩
  · rintro ⟨item, hitem, hill⟩
    cases h : parse names items with
    | error f => exact ⟨f, rfl⟩
    | ok env => exact absurd (assigns_of_parse h hitem) (illformed_iff.mp hill)

theorem lastWins_of_parse (h : parse names items = .ok env) : LastWins names items env := by
  obtain ⟨-, rfl⟩ := parse_ok_iff.mp h
  refine ⟨by simp [Function.comp_def], fun n hn hnever => ?_, ?_⟩
  · rw [List.lookup_graph _ hn, lastValue_of_notMem (by simpa using hnever)]
  · rintro before item after n b rfl hassigns hafter
    have hlater : n ∈ (item :: after).map target := by simp [hassigns.target_eq]
    have hnone : n ∉ after.map target := by simpa using hafter
    rw [List.lookup_graph _ hassigns.mem, lastValue_append, if_pos hlater,
      ← List.singleton_append, lastValue_append, if_neg hnone, lastValue_singleton hassigns]

theorem parse_append_ok {ys : List Text} {env' : List (Text × Bool)}
    (h : parse names items = .ok env) (h' : parse names ys = .ok env') :
    ∃ both, parse names (items ++ ys) = .ok both ∧ both.map (·.1) = names ∧
      ∀ n ∈ names, both.lookup n = if n ∈ ys.map target then env'.lookup n else env.lookup n := by
  obtain ⟨hall, rfl⟩ := parse_ok_iff.mp h
  obtain ⟨hall', rfl⟩ := parse_ok_iff.mp h'
  have hboth : ∀ i ∈ items ++ ys, ∃ p, Assigns names i p := fun i hi =>
    (List.mem_append.mp hi).elim (hall i) (hall' i)
  refine ⟨_, parse_eq hboth, by simp [Function.comp_def], fun n hn => ?_⟩
  rw [List.lookup_graph _ hn, List.lookup_graph _ hn, List.lookup_graph _ hn, lastValue_append,
    apply_ite some]

/-- Only the order of the items that name one name counts. -/
theorem parse_perm {ys : List Text} (hperm : items.Perm ys)
    (horder : ∀ n ∈ names, items.filter (target · == n) = ys.filter (target · == n))
    (h : parse names items = .ok env) : parse names ys = .ok env := by
  obtain ⟨hall, rfl⟩ := parse_ok_iff.mp h
  refine parse_ok_iff.mpr ⟨fun i hi => hall i (hperm.mem_iff.mpr hi), ?_⟩
  refine List.map_congr_left fun n hn => ?_
  rw [lastValue, lastValue, horder n hn]

end Assignment

/-- Assignments are carried out from left to right and the last one wins. A list is refused exactly
if an item is ill-formed, as the first such item is. Otherwise every name, and nothing else, has the
value of the last item that names it. More items override exactly the names that they name, and
nothing changes if items change places as long as those of one name keep their order. -/
theorem parse_last_wins (names items : List Text) :
    ((∃ f, Assignment.parse names items = .error f) ↔
      ∃ item ∈ items, ∃ f, Assignment.Illformed names item f) ∧
    (∀ f, Assignment.parse names items = .error f ↔
      ∃ before item after, items = before ++ item :: after ∧
        (∀ i ∈ before, ∀ g, ¬ Assignment.Illformed names i g) ∧
        Assignment.Illformed names item f) ∧
    (∀ env, Assignment.parse names items = .ok env → Assignment.LastWins names items env) ∧
    (∀ more env env', Assignment.parse names items = .ok env →
      Assignment.parse names more = .ok env' →
      ∃ both, Assignment.parse names (items ++ more) = .ok both ∧ both.map (·.1) = names ∧
        ∀ n ∈ names, both.lookup n =
          if n ∈ more.map Assignment.target then env'.lookup n else env.lookup n) ∧
    ∀ moved env, items.Perm moved →
      (∀ n ∈ names, items.filter (Assignment.target · == n) =
        moved.filter (Assignment.target · == n)) →
      Assignment.parse names items = .ok env → Assignment.parse names moved = .ok env := by
  refine ⟨Assignment.parse_fails_iff, fun f => ?_, fun _ => Assignment.lastWins_of_parse,
    fun _ _ _ => Assignment.parse_append_ok, fun _ _ => Assignment.parse_perm⟩
  rw [Assignment.parse_error_iff]
  -- An item assigns something exactly if nothing is wrong with it.
  simp only [← not_exists, Assignment.illformed_iff, not_not]

/-- The cases of ` a=T`, `C=1` and `A=0`, where `C=1` may come first, and of `B==1` behind them,
which is refused for the word `=1`. -/
theorem parse_last_wins_reordered :
    Assignment.parse ["A", "B", "C"] ["C=1", " a=T", "A=0"] =
        .ok [("A", false), ("B", false), ("C", true)] ∧
      Assignment.LastWins ["A", "B", "C"] [" a=T", "C=1", "A=0"]
        [("A", false), ("B", false), ("C", true)] ∧
      ∃ f, Assignment.parse ["A", "B", "C"] [" a=T", "C=1", "A=0", "B==1"] = .error f := by
  have ha : Assignment.Assigns ["A", "B", "C"] " a=T" ("A", true) :=
    Assignment.ofText_ok_iff.mp (by decide +kernel)
  have hc : Assignment.Assigns ["A", "B", "C"] "C=1" ("C", true) :=
    Assignment.ofText_ok_iff.mp (by decide +kernel)
  have hover : Assignment.Assigns ["A", "B", "C"] "A=0" ("A", false) :=
    Assignment.ofText_ok_iff.mp (by decide +kernel)
  have hrefused : Assignment.Illformed ["A", "B", "C"] "B==1" (.notTruth "=1" "B") :=
    Assignment.ofText_error_iff.mp (by decide +kernel)
  have h : Assignment.parse ["A", "B", "C"] [" a=T", "C=1", "A=0"] =
      .ok [("A", false), ("B", false), ("C", true)] := by
    refine Assignment.parse_ok_iff.mpr ⟨?_, ?_⟩
    · exact List.forall_mem_cons.mpr ⟨⟨_, ha⟩, List.forall_mem_cons.mpr ⟨⟨_, hc⟩,
        List.forall_mem_singleton.mpr ⟨_, hover⟩⟩⟩
    · simp [Assignment.lastValue, List.filter_cons, ha.target_eq, hc.target_eq, hover.target_eq,
        hc.said_eq, hover.said_eq]
  have hperm : ([" a=T", "C=1", "A=0"] : List Text).Perm ["C=1", " a=T", "A=0"] := .swap _ _ _
  have horder : ∀ n ∈ (["A", "B", "C"] : List Text),
      ([" a=T", "C=1", "A=0"] : List Text).filter (Assignment.target · == n) =
        (["C=1", " a=T", "A=0"] : List Text).filter (Assignment.target · == n) := by
    simp [List.filter_cons, ha.target_eq, hc.target_eq, hover.target_eq]
  obtain ⟨-, -, hlast, -, hmoved⟩ := parse_last_wins ["A", "B", "C"] [" a=T", "C=1", "A=0"]
  refine ⟨hmoved _ _ hperm horder h, hlast _ h, ?_⟩
  exact (parse_last_wins ["A", "B", "C"] [" a=T", "C=1", "A=0", "B==1"]).1.mpr
    ⟨"B==1", by decide, _, hrefused⟩

end InfixLogic
