import InfixLogic.CommandLine.Disk
import InfixLogic.Proofs.Assignment
import InfixLogic.Proofs.Failure
import InfixLogic.Proofs.Language
import InfixLogic.Proofs.Surface
import InfixLogic.Proofs.Transport

/- What a run leaves behind.

   What a request leaves behind, apart from its log, is what its answer leaves behind, or nothing
   if something is missing on the way there (`effects_of_perform`). So a run that ends with a status
   is a refusal, a list of the tokens, or an answer (`exit_of_perform`). An answer evaluates its
   expression three times: for the line that it prints, for the status and for the rows of the
   table. As failure does not depend on the environment, the three agree: the status says which line
   is printed and whether the table is one of sentinels (`Answered`).

   The line of an outcome is a single line, because no fault of known tokens quotes a text
   (`oneLine_message_of_evaluate`).

   A table is saved at a path only. An address that is reached takes the text without keeping it,
   and the ending of a path may ask for an archive (`saved_elsewhere`), which never holds the text as
   it is (`Saved.stored_iff`). -/

namespace InfixLogic

/-! ## Texts of one line -/

/-- A text without the end of a line. -/
def Text.OneLine (t : Text) : Prop := CodePoint.char '\n' ∉ t

namespace Text

instance (t : Text) : Decidable (OneLine t) := inferInstanceAs (Decidable (_ ∉ t))

theorem oneLine_append {s t : Text} : OneLine (s ++ t) ↔ OneLine s ∧ OneLine t := by
  simp [OneLine]

theorem oneLine_ofNat (n : Nat) : OneLine (ofNat n) := by
  intro h
  obtain ⟨c, hc, hnewline⟩ := List.mem_map.mp h
  obtain rfl := CodePoint.char.inj hnewline
  exact absurd (Nat.isDigit_of_mem_toDigits (by decide) (by decide) hc) (by decide)

theorem oneLine_ofInt (i : Int) : OneLine (ofInt i) := by
  cases i with
  | ofNat n => exact oneLine_ofNat n
  | negSucc n =>
    rw [ofInt, OneLine, List.mem_cons, not_or]
    exact ⟨by decide, oneLine_ofNat (n + 1)⟩

theorem oneLine_join {separator : Text} (hseparator : OneLine separator) {ts : List Text}
    (h : ∀ t ∈ ts, OneLine t) : OneLine (join separator ts) := by
  fun_induction join separator ts with
  | case1 => exact List.not_mem_nil
  | case2 t => exact h t (by simp)
  | case3 t rest _ ih =>
    obtain ⟨ht, hrest⟩ := List.forall_mem_cons.mp h
    exact oneLine_append.mpr ⟨oneLine_append.mpr ⟨ht, hseparator⟩, ih hrest⟩

end Text

open Text (OneLine oneLine_append oneLine_ofNat oneLine_join)

theorem FaultKind.oneLine_text (k : FaultKind) : OneLine k.text := by
  cases k <;> decide

theorem oneLine_located {words : Text} (h : OneLine words) (p : Int) :
    OneLine (words ++ " (at token " ++ Text.ofInt p ++ ")") :=
  oneLine_append.mpr ⟨oneLine_append.mpr ⟨oneLine_append.mpr ⟨h, by decide⟩, Text.oneLine_ofInt p⟩,
    by decide⟩

theorem Report.oneLine_message {r : Report} (h : ∀ d ∈ r.detail, OneLine d) :
    OneLine r.message := by
  obtain ⟨kind, position, detail⟩ := r
  -- An empty detail counts as none.
  have hkind := kind.oneLine_text
  cases position with
  | none =>
    rcases detail with _ | _ | ⟨c, cs⟩
    · exact hkind
    · exact hkind
    · exact h (c :: cs) rfl
  | some p =>
    rcases detail with _ | _ | ⟨c, cs⟩
    · exact oneLine_located hkind p
    · exact oneLine_located hkind p
    · exact oneLine_located (h (c :: cs) rfl) p

/-- Only what is said about an unknown token quotes a text. -/
theorem Fault.oneLine_detail {f : Fault} (h : f.kind ≠ .unknownToken) :
    ∀ d ∈ f.detail, OneLine d := by
  cases f with
  | starved c _ => cases c <;> simp [Fault.detail] <;> decide
  | binaryAfterOpening _ | binaryAfterNegation _ => simp [Fault.detail]; decide
  | empty | missingOperator _ | emptyGroup _ | danglingOperator _ | unmatchedClosing _
  | unmatchedOpening | unknownOperator _ _ | leftover _ => simp [Fault.detail]
  | _ => exact absurd rfl h

/-- No fault of known tokens quotes a text. -/
theorem oneLine_message_of_evaluate {v : Vocabulary} (hv : v.Ranked) {ts : List Token}
    (hts : ∀ t ∈ ts, t ∈ v.tokens) {env : Text → Bool} {f : Fault}
    (h : v.evaluate (Token.items ts) env = .error f) : OneLine f.message :=
  Report.oneLine_message (Fault.oneLine_detail (known_of_evaluate_error hv hts h).2)

/-! ## Assignments -/

namespace CommandLine

theorem map_fst_inputs {v : Vocabulary} {r : Request} {values : List (Text × Bool)}
    (h : inputs v r = .ok values) : values.map (·.1) = v.freeVariables := by
  rw [inputs] at h
  split at h
  · cases h
  · next values' hparse =>
    split at h
    · cases h
    · obtain rfl := Except.ok.inj h
      simpa [Function.comp_def] using Assignment.map_fst_update hparse

/-! ## The line of an outcome -/

theorem oneLine_outcomeLine {inputs : List (Text × Bool)} (hinputs : ∀ p ∈ inputs, OneLine p.1)
    {o : Outcome} (ho : ∀ r, o = .failure r → OneLine r.message) :
    OneLine (outcomeLine inputs o) := by
  cases o with
  | failure r => exact oneLine_append.mpr ⟨by decide, ho r rfl⟩
  | success b =>
    have hshown : OneLine (shownInputs inputs) := by
      refine oneLine_join (by decide) (List.forall_mem_map.mpr fun p hp => ?_)
      refine oneLine_append.mpr ⟨oneLine_append.mpr ⟨hinputs p hp, by decide⟩, ?_⟩
      cases p.2 <;> decide
    refine oneLine_append.mpr ⟨oneLine_append.mpr ⟨?_, hshown⟩, by decide⟩
    cases b <;> decide +kernel

/-! ## The parts of a transcript -/

namespace Transcript

@[simp] theorem printed_append (a b : Transcript) : (a ++ b).printed = a.printed ++ b.printed := rfl

@[simp] theorem written_append (a b : Transcript) : (a ++ b).written = a.written ++ b.written := rfl

@[simp] theorem printed_empty : empty.printed = [] := rfl

@[simp] theorem written_empty : empty.written = [] := rfl

@[simp] theorem printed_ofLog (es : List LogEntry) : (ofLog es).printed = [] := rfl

@[simp] theorem written_ofLog (es : List LogEntry) : (ofLog es).written = [] := rfl

@[simp] theorem printed_note (l : LogLevel) (t : Text) : (note l t).printed = [] := rfl

@[simp] theorem written_note (l : LogLevel) (t : Text) : (note l t).written = [] := rfl

@[simp] theorem printed_ofLine (t : Text) : (ofLine t).printed = t ++ "\n" := rfl

@[simp] theorem written_ofLine (t : Text) : (ofLine t).written = [] := rfl

@[simp] theorem written_ofFiles (fs : List OutputFile) : (ofFiles fs).written = fs := rfl

@[simp] theorem written_ite (c : Prop) [Decidable c] (a b : Transcript) :
    (if c then a else b).written = if c then a.written else b.written :=
  apply_ite written c a b

end Transcript

/-! ## The saved table -/

/-- The table of an expression, as it is saved. -/
def savedTable (v : Vocabulary) (items : List Item) : Frame :=
  (Frame.ofRows (v.truthTable items) none).format

/-- A request saves the table of an expression at a path: the path is given, it is no address, and
there are variables. -/
structure Request.Saves (r : Request) (v : Vocabulary) (items : List Item) (path : Text) :
    Prop where
  output : r.output = some path
  nonempty : path ≠ []
  isPath : Destination.read path = .ok .path
  used : v.usedVariables items ≠ []

/-- The files of a request: the document of the table at the path where it is saved, or none. -/
inductive Saved (v : Vocabulary) (r : Request) (items : List Item) : List OutputFile → Prop where
  | table {path : Text} (h : r.Saves v items path) :
      Saved v r items [⟨path, (savedTable v items).csv⟩]
  | nothing (h : ∀ path, ¬ r.Saves v items path) : Saved v r items []

section Saving
variable {v : Vocabulary} {folder : Folder} {r : Request} {items : List Item} {path text : Text}

/-- What is sent goes to a path as a file, or to an address and nowhere else. -/
theorem deliver_ok {files : List OutputFile} (h : deliver folder path text = .ok files) :
    Destination.read path = .ok .path ∧ files = [⟨path, text⟩] ∨
      Destination.read path ≠ .ok .path ∧ files = [] := by
  obtain ⟨d, hd, hrest⟩ := bind_ok.mp h
  cases hread : Destination.read path with
  | error f =>
    rw [hread] at hd
    cases hd
  | ok d' =>
    rw [hread] at hd
    obtain rfl := Except.ok.inj hd
    cases d' with
    | path =>
      obtain ⟨-, -, hrest⟩ := bind_ok.mp hrest
      obtain ⟨-, -, hrest⟩ := bind_ok.mp hrest
      obtain ⟨-, -, hfiles⟩ := bind_ok.mp hrest
      exact .inl ⟨rfl, (Except.ok.inj hfiles).symm⟩
    | address a =>
      obtain ⟨-, -, hrest⟩ := bind_ok.mp hrest
      obtain ⟨-, -, hfiles⟩ := bind_ok.mp hrest
      exact .inr ⟨by simp, (Except.ok.inj hfiles).symm⟩
    | foreignStorage => cases hrest

/-- The file of a saved table holds its document as it is exactly if the path asks for no other
form. -/
theorem Saved.stored_iff {files : List OutputFile} (h : Saved v r items files)
    (hs : r.Saves v items path) :
    files.map OutputFile.content? = [some (savedTable v items).csv] ↔
      Packing.ofPath path = .plain := by
  cases h with
  | nothing hnone => exact absurd hs (hnone path)
  | table htable =>
    obtain rfl := Option.some.inj (htable.output.symm.trans hs.output)
    simpa using OutputFile.content?_eq_text_iff ⟨_, (savedTable v items).csv⟩

theorem truthTable_eq_nil_iff : v.truthTable items = [] ↔ v.usedVariables items = [] := by
  constructor
  · intro h
    by_contra hne
    have hlength := Vocabulary.length_truthTable hne
    rw [h] at hlength
    exact absurd hlength.symm (Nat.two_pow_pos _).ne'
  · intro h
    simp [Vocabulary.truthTable, h]

theorem saved_of_deliver {files : List OutputFile} (houtput : r.output = some path)
    (hpath : path ≠ []) (hused : v.usedVariables items ≠ [])
    (h : deliver folder path (savedTable v items).csv = .ok files) : Saved v r items files := by
  rcases deliver_ok h with ⟨hread, rfl⟩ | ⟨hread, rfl⟩
  · exact .table ⟨houtput, hpath, hread, hused⟩
  · refine .nothing fun path' hs => hread ?_
    obtain rfl := Option.some.inj (houtput.symm.trans hs.output)
    exact hs.isPath

theorem written_of_writeTable {frame : Frame} {t : Transcript}
    (h : writeTable folder frame path = (t, none)) :
    ∃ files, deliver folder path frame.csv = .ok files ∧ t.written = files := by
  rw [writeTable] at h
  split at h
  · next files hfiles =>
    obtain ⟨rfl, -⟩ := Prod.mk.inj h
    exact ⟨files, hfiles, by simp⟩
  · cases (Prod.mk.inj h).2

/-- A request whose table can be saved leaves what it asks for. -/
theorem saved_of_showTable {t : Transcript} (h : showTable v folder r items = (t, none)) :
    Saved v r items t.written := by
  have hunnamed (hpath : r.output.getD [] = []) (path : Text) : ¬ r.Saves v items path := by
    intro hs
    rw [hs.output] at hpath
    exact hs.nonempty hpath
  simp only [showTable] at h
  split at h
  · next hquiet =>
    obtain ⟨rfl, -⟩ := Prod.mk.inj h
    exact .nothing (hunnamed (by simp at hquiet; exact hquiet.2))
  · split at h
    · next hrows =>
      obtain ⟨rfl, -⟩ := Prod.mk.inj h
      have hused := truthTable_eq_nil_iff.mp (List.isEmpty_iff.mp hrows)
      exact .nothing fun path hs => hs.used hused
    · next hrows =>
      split at h
      · next hpath =>
        obtain ⟨rfl, -⟩ := Prod.mk.inj h
        have hwritten := Saved.nothing (hunnamed (List.isEmpty_iff.mp hpath))
        simpa using hwritten
      · next hpath =>
        obtain ⟨rfl, hfault⟩ := Prod.mk.inj h
        obtain ⟨files, hfiles, hwritten⟩ := written_of_writeTable (Prod.ext rfl hfault)
        have hused : v.usedVariables items ≠ [] := fun hused =>
          hrows (List.isEmpty_iff.mpr (truthTable_eq_nil_iff.mpr hused))
        cases houtput : r.output with
        | none => simp [houtput] at hpath
        | some path =>
          simp only [houtput, Option.getD_some, List.isEmpty_iff] at hfiles hwritten hpath ⊢
          simpa [hwritten] using saved_of_deliver houtput hpath hused hfiles

end Saving

/-! ## The column of results -/

theorem lookup_zip_map {α : Type} {names : List Text} {name : Text} (h : name ∈ names)
    (g : Text → α) : (names.zip (names.map g)).lookup name = some (g name) := by
  induction names with
  | nil => cases h
  | cons n names ih =>
    rw [List.map_cons, List.zip_cons_cons, List.lookup_cons]
    by_cases hname : name = n
    · simp [hname]
    · simp [beq_false_of_ne hname, ih ((List.mem_cons.mp h).resolve_left hname)]

end CommandLine

/-- The cells of a table in its column of results. -/
def Frame.results (f : Frame) : List (Option Cell) :=
  f.rows.map fun r => ((f.columns.zip r).lookup resultColumn).join

namespace CommandLine

theorem results_savedTable (v : Vocabulary) (items : List Item) :
    (savedTable v items).results =
      (v.truthTable items).map fun r => some (.text (Frame.displayed r.result)) := by
  simp only [savedTable, Frame.results, Frame.format, Frame.ofRows, List.map_map]
  refine List.map_congr_left fun r _ => ?_
  rw [Function.comp_apply, Function.comp_apply, List.map_map, lookup_zip_map (by simp)]
  simp [Frame.cell]

/-- A row shows the sentinel if an evaluation under any truth values fails. -/
theorem displayed_eq_sentinel_iff {v : Vocabulary} {items : List Item} {r : Row}
    (hr : r ∈ v.truthTable items) (env : Environment) :
    (Cell.text (Frame.displayed r.result) = .sentinel) ↔
      (v.outcome items env).isSuccess = false := by
  obtain ⟨assignment, rfl⟩ := Vocabulary.exists_of_mem_truthTable hr
  rcases v.denotes_or_fails items with ⟨value, hvalue⟩ | ⟨f, hf⟩
  · have htruth (b : Bool) : Cell.text (Frame.displayed (.truth b)) ≠ .sentinel := by
      cases b <;> decide
    simp [Vocabulary.row, Vocabulary.outcome, hvalue (Environment.ofBools assignment).truth,
      hvalue env.truth, htruth, Outcome.ofExcept, Outcome.isSuccess]
  · simp [Vocabulary.row, Vocabulary.outcome, hf, Outcome.ofExcept, Outcome.isSuccess,
      Frame.displayed, Cell.sentinel]

theorem exitStatus_eq_one_iff (o : Outcome) : exitStatus o = 1 ↔ o.isSuccess = false := by
  cases h : o.isSuccess <;> simp [exitStatus, h]

/-- The saved table is one of sentinels if the evaluation fails. -/
theorem results_eq_sentinel_iff {v : Vocabulary} {items : List Item}
    (hused : v.usedVariables items ≠ []) (env : Environment) :
    (∀ c ∈ (savedTable v items).results, c = some .sentinel) ↔
      exitStatus (v.outcome items env) = 1 := by
  have hrow {r : Row} (hr : r ∈ v.truthTable items) :=
    (displayed_eq_sentinel_iff hr env).trans (exitStatus_eq_one_iff _).symm
  rw [results_savedTable, List.forall_mem_map]
  simp only [Option.some.injEq]
  constructor
  · intro h
    obtain ⟨r, hr⟩ := List.exists_mem_of_ne_nil _ fun h => hused (truthTable_eq_nil_iff.mp h)
    exact (hrow hr).mp (h r hr)
  · exact fun h r hr => (hrow hr).mpr h

/-! ## A whole run -/

/-- What a run leaves behind, apart from its log. -/
structure Effects where
  printed : Text
  written : List OutputFile
  ending : Ending

namespace Effects

def of (p : Transcript × Ending) : Effects := ⟨p.1.printed, p.1.written, p.2⟩

def refusal : Effects := ⟨[], [], .status 2⟩

/-- Goes on with what has been found, or refuses, or is cut short. -/
def after {α : Type} : Except LoadFault α → (α → Effects) → Effects
  | .ok a, next => next a
  | .error (.message _), _ => refusal
  | .error (.cut e), _ => ⟨[], [], e⟩

variable {printed : Text} {written : List OutputFile} {n : Nat}

theorem refusal_eq_status (h : refusal = ⟨printed, written, .status n⟩) :
    n = 2 ∧ printed = [] ∧ written = [] := by
  obtain ⟨hprinted, hwritten, hstatus⟩ := mk.inj h
  exact ⟨(Ending.status.inj hstatus).symm, hprinted.symm, hwritten.symm⟩

/-- What is not cut short with a status ends with one by a refusal or in what comes next. -/
theorem after_eq_status {α : Type} {found : Except LoadFault α} {next : α → Effects}
    (hcut : ∀ {e}, found = .error (.cut e) → ∀ n, e ≠ .status n)
    (h : after found next = ⟨printed, written, .status n⟩) :
    (n = 2 ∧ printed = [] ∧ written = []) ∨
      ∃ a, found = .ok a ∧ next a = ⟨printed, written, .status n⟩ := by
  match found, h with
  | .ok a, h => exact .inr ⟨a, rfl, h⟩
  | .error (.message _), h => exact .inl (refusal_eq_status h)
  | .error (.cut e), h => exact absurd (congrArg ending h) (hcut rfl n)

end Effects

/-- What a run leaves behind that ends with an exit status. -/
structure Exit where
  status : Nat
  printed : Text
  written : List OutputFile
  deriving DecidableEq, Repr

/-- How a run ends, unless it is cut short or a plea for help. -/
def Run.exit? : Run → Option Exit
  | .usage => some ⟨2, [], []⟩
  | .finished _ t (.status n) => some ⟨n, t.printed, t.written⟩
  | _ => none

/-- What a run leaves behind that answers a request about tokens under some truth values. Its status
says whether the expression has a value, and its first line is that of the outcome. Its table is
saved, and stored as it is exactly if the path asks for no other form, and it is one of sentinels if
the status says that there is no value. -/
structure Answered (v : Vocabulary) (r : Request) (ts : List Token) (values : List (Text × Bool))
    (o : Outcome) (e : Exit) : Prop where
  outcome : v.outcome (Token.items ts) (Environment.ofBools values) = o
  names : values.map (·.1) = v.freeVariables
  status : e.status = if o.isSuccess then 0 else 1
  line : ∃ rest, e.printed = outcomeLine values o ++ "\n" ++ rest
  oneLine : OneLine (outcomeLine values o)
  saved : Saved v r (Token.items ts) e.written
  stored : ∀ path, r.Saves v (Token.items ts) path →
    (e.written.map OutputFile.content? = [some (savedTable v (Token.items ts)).csv] ↔
      Packing.ofPath path = .plain)
  results : v.usedVariables (Token.items ts) ≠ [] →
    ((∀ c ∈ (savedTable v (Token.items ts)).results, c = some .sentinel) ↔ e.status = 1)

theorem loadTokens_told (v : Vocabulary) (folder : Folder) (r : Request) :
    (loadTokens v folder r).1.printed = [] ∧ (loadTokens v folder r).1.written = [] := by
  simp only [loadTokens]
  split
  · split <;> exact ⟨rfl, rfl⟩
  · split <;> exact ⟨rfl, rfl⟩

theorem load_of_loadDocument {v : Vocabulary} {document : Text} {ts : List Token}
    (h : loadDocument v document = .ok ts) : v.load document = .ok ts := by
  rw [loadDocument] at h
  split at h
  · next us hus =>
    obtain rfl := Except.ok.inj h
    exact hus
  all_goals cases h

/-- The tokens of a run are in the vocabulary. -/
theorem mem_tokens_of_loadTokens {v : Vocabulary} (hv : v.Ranked) {folder : Folder} {r : Request}
    {ts : List Token} (h : (loadTokens v folder r).2 = .ok ts) : ∀ t ∈ ts, t ∈ v.tokens := by
  simp only [loadTokens] at h
  split at h
  · split at h
    · exact Vocabulary.mem_tokens_of_load hv (load_of_loadDocument h)
    · cases h
  · split at h
    · next us hus =>
      obtain rfl := Except.ok.inj h
      exact Vocabulary.mem_tokens_of_tokenize hus
    · cases h

section Perform
variable {v : Vocabulary} {folder : Folder} {r : Request} {t : Transcript} {n : Nat}

/-- What cuts a run short is no status. -/
theorem ne_status_of_inputs {e : Ending} (h : inputs v r = .error (.cut e)) (n : Nat) :
    e ≠ .status n := by
  rw [inputs] at h
  split at h
  · cases h
  · split at h
    · cases h
      simp
    · cases h

theorem ne_status_of_loadTokens {e : Ending} (h : (loadTokens v folder r).2 = .error (.cut e))
    (n : Nat) : e ≠ .status n := by
  simp only [loadTokens] at h
  split at h
  · split at h
    · simp only [loadDocument] at h
      split at h <;> cases h <;> simp
    · cases h
  · split at h <;> cases h

/-- A request that is not for the list of tokens needs a source, truth values and tokens, in this
order, to be answered. -/
theorem effects_of_perform (hpalette : r.palette = false) :
    Effects.of (perform v folder r) =
      if (r.expression.getD []).isEmpty && (r.tokensFile.getD []).isEmpty then .refusal
      else .after (inputs v r) fun values => .after (loadTokens v folder r).2 fun ts =>
        .of (answer v folder r values (Token.items ts)) := by
  obtain ⟨hprinted, hwritten⟩ := loadTokens_told v folder r
  simp only [perform, hpalette, Bool.false_eq_true, if_false]
  split
  · rfl
  · cases inputs v r with
    | error e => cases e <;> rfl
    | ok values =>
      generalize loadTokens v folder r = loaded at hprinted hwritten ⊢
      obtain ⟨told, result⟩ := loaded
      cases result with
      | error e => cases e <;> simp_all [Effects.of, Effects.after, Effects.refusal]
      | ok ts => simp_all [Effects.of, Effects.after]

/-- What a request about tokens that are found leaves behind. -/
theorem effects_of_loadTokens {ts : List Token} (hpalette : r.palette = false)
    (hasked : ((r.expression.getD []).isEmpty && (r.tokensFile.getD []).isEmpty) = false)
    (hload : (loadTokens v folder r).2 = .ok ts) :
    Effects.of (perform v folder r) =
      .after (inputs v r) fun values => .of (answer v folder r values (Token.items ts)) := by
  rw [effects_of_perform hpalette, hasked, hload]
  rfl

/-- A request that ends with a status is refused, or it is answered. -/
theorem exit_of_perform (hpalette : r.palette = false)
    (h : perform v folder r = (t, .status n)) :
    (n = 2 ∧ t.printed = [] ∧ t.written = []) ∨
      ∃ values ts, inputs v r = .ok values ∧ (loadTokens v folder r).2 = .ok ts ∧
        Effects.of (answer v folder r values (Token.items ts)) =
          ⟨t.printed, t.written, .status n⟩ := by
  have heffects := (effects_of_perform hpalette).symm.trans (congrArg Effects.of h)
  split at heffects
  · exact .inl (Effects.refusal_eq_status heffects)
  · rcases Effects.after_eq_status ne_status_of_inputs heffects with hrefused | hinputs
    · exact .inl hrefused
    · obtain ⟨values, hvalues, hrest⟩ := hinputs
      rcases Effects.after_eq_status ne_status_of_loadTokens hrest with hrefused | hload
      · exact .inl hrefused
      · obtain ⟨ts, hts, hanswer⟩ := hload
        exact .inr ⟨values, ts, hvalues, hts, hanswer⟩

theorem answered_of_answer (hv : v.Ranked) (hnames : ∀ name ∈ v.freeVariables, OneLine name)
    {values : List (Text × Bool)} {ts : List Token} {printed : Text} {written : List OutputFile}
    (hinputs : inputs v r = .ok values) (hts : ∀ t ∈ ts, t ∈ v.tokens)
    (h : Effects.of (answer v folder r values (Token.items ts)) =
      ⟨printed, written, .status n⟩) :
    ∃ o, Answered v r ts values o ⟨n, printed, written⟩ := by
  have hfst := map_fst_inputs hinputs
  have hvalues : ∀ p ∈ values, OneLine p.1 := fun p hp =>
    hnames p.1 (hfst ▸ List.mem_map_of_mem hp)
  have hmessage : ∀ report, v.outcome (Token.items ts) (Environment.ofBools values) =
      .failure report → OneLine report.message := by
    intro report hreport
    rw [Vocabulary.outcome] at hreport
    cases heval : v.evaluate (Token.items ts) (Environment.ofBools values).truth with
    | ok b =>
      rw [heval] at hreport
      cases hreport
    | error f =>
      rw [heval] at hreport
      obtain rfl := Outcome.failure.inj hreport
      exact oneLine_message_of_evaluate hv hts heval
  cases hshow : showTable v folder r (Token.items ts) with
  | mk table fault =>
    simp only [answer, hshow] at h
    cases fault with
    | some f => cases congrArg Effects.ending h
    | none =>
      obtain ⟨rfl, rfl, hstatus⟩ := Effects.mk.inj h
      obtain rfl := Ending.status.inj hstatus
      have hsaved := saved_of_showTable hshow
      exact ⟨_, {
        outcome := rfl
        names := hfst
        status := rfl
        line := ⟨table.printed, by simp⟩
        oneLine := oneLine_outcomeLine hvalues hmessage
        saved := by simpa using hsaved
        stored := fun path hs => by simpa using hsaved.stored_iff hs
        results := fun hused => results_eq_sentinel_iff hused _ }⟩

theorem perform_of_palette (hpalette : r.palette = true) :
    ∃ t, perform v folder r = (t, .status 0) := by
  simp [perform, hpalette]

end Perform

open Vocabulary (standard)

section Run
variable {argv : List Text} {r : Request}

theorem run_of_noLevel (hparse : Request.parse argv = .request r) (hlevel : r.level = none)
    (folder : Folder) : run folder argv = .finished .info .empty .noLevel := by
  simp only [run, hparse, carryOut, hlevel]

theorem run_of_level {level : LogLevel} (hparse : Request.parse argv = .request r)
    (hlevel : r.level = some level) (folder : Folder) :
    run folder argv =
      .finished level (perform standard folder r).1 (perform standard folder r).2 := by
  simp only [run, hparse, carryOut, hlevel]

/-- A run that ends with a status has carried out its request. -/
theorem perform_of_exit {folder : Folder} {e : Exit} (hparse : Request.parse argv = .request r)
    (h : (run folder argv).exit? = some e) :
    ∃ t n, perform standard folder r = (t, .status n) ∧ e = ⟨n, t.printed, t.written⟩ := by
  cases hlevel : r.level with
  | none =>
    rw [run_of_noLevel hparse hlevel] at h
    cases h
  | some level =>
    rw [run_of_level hparse hlevel] at h
    generalize perform standard folder r = performed at h ⊢
    obtain ⟨t, ending⟩ := performed
    cases ending with
    | status n => exact ⟨t, n, rfl, (Option.some.inj h).symm⟩
    | noLevel | noAssignment | noKey | tooDeep | unwritable f => cases h

end Run

/-- A run that ends with status 2 prints nothing and writes nothing. Every other run that ends with
a status has read its command line as a request, and unless that asks for the list of tokens, it has
found the tokens and the truth values and answers the request about them. -/
theorem run_effects (folder : Folder) (argv : List Text) {e : Exit}
    (h : (run folder argv).exit? = some e) :
    (e.status = 2 → e.printed = [] ∧ e.written = []) ∧
      (e.status ≠ 2 → ∃ r, Request.parse argv = .request r ∧
        (r.palette = false → ∃ ts values o, (loadTokens standard folder r).2 = .ok ts ∧
          inputs standard r = .ok values ∧ Answered standard r ts values o e)) := by
  cases hparse : Request.parse argv with
  | usage =>
    simp only [run, hparse, Run.exit?, Option.some.injEq] at h
    subst h
    exact ⟨fun _ => ⟨rfl, rfl⟩, fun hne => absurd rfl hne⟩
  | help => simp [run, hparse, Run.exit?] at h
  | request r =>
    obtain ⟨t, n, hperform, rfl⟩ := perform_of_exit hparse h
    have hranked := Vocabulary.standard_conventional.toRanked
    cases hpalette : r.palette with
    | true =>
      obtain ⟨t', hzero⟩ := perform_of_palette hpalette
      obtain ⟨-, hstatus⟩ := Prod.mk.inj (hzero.symm.trans hperform)
      obtain rfl := Ending.status.inj hstatus
      exact ⟨nofun, fun _ => ⟨r, rfl, fun hfalse => absurd (hpalette.symm.trans hfalse) nofun⟩⟩
    | false =>
      rcases exit_of_perform hpalette hperform with ⟨htwo, hprinted, hwritten⟩ | hanswered
      · exact ⟨fun _ => ⟨hprinted, hwritten⟩, fun hne => absurd htwo hne⟩
      · obtain ⟨values, ts, hinputs, hload, hanswer⟩ := hanswered
        have hts := mem_tokens_of_loadTokens hranked hload
        obtain ⟨o, ho⟩ := answered_of_answer hranked (by decide) hinputs hts hanswer
        refine ⟨fun htwo => ?_, fun _ => ⟨r, rfl, fun _ => ⟨ts, values, o, hload, hinputs, ho⟩⟩⟩
        have hstatus := ho.status
        rw [htwo] at hstatus
        split at hstatus <;> cases hstatus

/-- The case of `B ||` with a table to be saved, which has no value. -/
theorem run_effects_failed :
    (run (Disk.ofFiles []).folder ["B ||", "--output", "t.csv"]).exit? =
        some ⟨1, "Error: Binary operator needs operands on both sides (at token 1)\n",
          [⟨"t.csv", "B,RESULT\nfalse,—\ntrue,—\n"⟩]⟩ ∧
      ∃ r ts values o, (loadTokens standard (Disk.ofFiles []).folder r).2 = .ok ts ∧
        inputs standard r = .ok values ∧
        Answered standard r ts values o
          ⟨1, "Error: Binary operator needs operands on both sides (at token 1)\n",
            [⟨"t.csv", "B,RESULT\nfalse,—\ntrue,—\n"⟩]⟩ := by
  have hexit : (run (Disk.ofFiles []).folder ["B ||", "--output", "t.csv"]).exit? =
      some ⟨1, "Error: Binary operator needs operands on both sides (at token 1)\n",
        [⟨"t.csv", "B,RESULT\nfalse,—\ntrue,—\n"⟩]⟩ := by decide +kernel
  have hparse : Request.parse ["B ||", "--output", "t.csv"] =
      .request ⟨some "B ||", none, [], false, some "t.csv", false, some .info⟩ := by decide +kernel
  obtain ⟨r, hr, hanswered⟩ := (run_effects _ _ hexit).2 (by decide)
  obtain rfl := Parsed.request.inj (hparse.symm.trans hr)
  exact ⟨hexit, _, hanswered rfl⟩

/-- A table that is saved under a name that ends in `.tar` is put into an archive, and one that is
sent to the address of a file which is there goes nowhere, though both runs end well. -/
theorem saved_elsewhere :
    (run (Disk.ofFiles []).folder ["A", "--output", "t.tar"]).exit? =
        some ⟨0, "Result: FALSE  (evaluated under A=false, B=false, C=false)\n",
          [⟨"t.tar", "A,RESULT\nfalse,false\ntrue,true\n"⟩]⟩ ∧
      OutputFile.content? ⟨"t.tar", "A,RESULT\nfalse,false\ntrue,true\n"⟩ ≠
        some (Text.ofString "A,RESULT\nfalse,false\ntrue,true\n") ∧
      (run (Disk.ofFiles []).folder ["A", "--output", "file:///etc/passwd"]).exit? =
        some ⟨0, "Result: FALSE  (evaluated under A=false, B=false, C=false)\n", []⟩ := by
  decide +kernel

end CommandLine

end InfixLogic
