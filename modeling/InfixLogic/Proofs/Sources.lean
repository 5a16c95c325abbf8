import InfixLogic.CommandLine.Disk
import InfixLogic.Proofs.Effects
import InfixLogic.Proofs.Surface
import InfixLogic.Proofs.Transport

/- An expression on the command line and the file of its tokens.

   The tokens of a text are those of the document that they are dumped to, so a run about the one
   tells and does what a run about the other does, but for its log (`perform_sources`).

   Two command lines lead to such a pair of runs if they have the same options. `Spells` says which
   choices a list of arguments spells, one option after another, and `Spells.carries` that they are
   carried out wherever these arguments stand. An expression that can be read never looks like an
   option, as it does not start with a dash (`classify?_of_tokenize`). The name of a file may, and
   then it is no separate argument, but it can still be attached to the option (`GivesFile`). -/

namespace InfixLogic.CommandLine

/-! ## Options -/

/-- What an option other than a source chooses. An option may come without its value. -/
inductive Choice where
  | assignment (value : Option Text)
  | table
  | output (value : Option Text)
  | level (l : Option LogLevel)
  deriving DecidableEq, Repr

namespace Choice

/-- The choice of an option that takes a value. -/
def ofSwitch? (value : Option Text) : Switch → Option Choice
  | .set => some (.assignment value)
  | .output => some (.output value)
  | .logLevel =>
    match value with
    | none => some (.level none)
    | some name => (LogLevel.ofName? name).map fun l => .level (some l)
  | _ => none

/-- A request after a choice. -/
def apply (r : Request) : Choice → Request
  | .assignment value => { r with assignments := r.assignments ++ [value] }
  | .table => { r with table := true }
  | .output value => { r with output := value }
  | .level l => { r with level := l }

/-- The request of some choices, which is about nothing yet. -/
def request (cs : List Choice) : Request := cs.foldl apply Request.default

theorem withValue?_of_ofSwitch? {value : Option Text} {s : Switch} {c : Choice}
    (h : ofSwitch? value s = some c) (r : Request) : r.withValue? value s = some (c.apply r) := by
  cases s with
  | set | output => exact congrArg (fun c => some (apply r c)) (Option.some.inj h)
  | logLevel =>
    cases value with
    | none => exact congrArg (fun c => some (apply r c)) (Option.some.inj h)
    | some name =>
      obtain ⟨l, hl, rfl⟩ := Option.map_eq_some_iff.mp h
      simp [Request.withValue?, hl, apply]
  | help | tokensFile | table | palette => cases h

end Choice

/-- Arguments that spell choices, one option after another: the option alone, with its value
attached, or with its value as the next argument. -/
inductive Spells : List Text → List Choice → Prop where
  | nil : Spells [] []
  | table {t : Text} {args : List Text} {cs : List Choice}
      (ht : Argument.classify? t = some (.switch .table none)) (h : Spells args cs) :
      Spells (t :: args) (.table :: cs)
  | attached {t value : Text} {s : Switch} {c : Choice} {args : List Text} {cs : List Choice}
      (ht : Argument.classify? t = some (.switch s (some value)))
      (hc : Choice.ofSwitch? (Request.attached? value) s = some c) (h : Spells args cs) :
      Spells (t :: args) (c :: cs)
  | separate {t value : Text} {s : Switch} {c : Choice} {args : List Text} {cs : List Choice}
      (ht : Argument.classify? t = some (.switch s none))
      (hvalue : Argument.classify? value = some (.positional value))
      (hc : Choice.ofSwitch? (some value) s = some c) (h : Spells args cs) :
      Spells (t :: value :: args) (c :: cs)

/-- Arguments that give a file of tokens: the option with the name behind it, if the name does not
look like an option, or with the name attached, if that is not two dashes. -/
inductive GivesFile : List Text → Text → Prop where
  | separate {f : Text} (hf : Argument.classify? f = some (.positional f)) :
      GivesFile ["--tokens-file", f] f
  | attached {f : Text} (hf : f ≠ "--") : GivesFile ["--tokens-file=" ++ f] f

/-! ## Going through arguments -/

/-- The classes of arguments, whatever follows them. -/
def Classed (args : List Text) (as : List Argument) : Prop :=
  ∀ more, Argument.classifyAll? (args ++ more) = (Argument.classifyAll? more).map (as ++ ·)

namespace Classed

variable {args args' : List Text} {as as' : List Argument}

theorem nil : Classed [] [] := fun more => by simp

theorem append (h : Classed args as) (h' : Classed args' as') :
    Classed (args ++ args') (as ++ as') := by
  intro more
  rw [List.append_assoc, h, h', Option.map_map]
  exact congrArg (Option.map · _) (funext fun bs => (List.append_assoc as as' bs).symm)

/-- Two dashes have no class of their own, so an argument with a class does not end the options. -/
theorem singleton {t : Text} {a : Argument} (ht : Argument.classify? t = some a) :
    Classed [t] [a] := by
  intro more
  have hdashes : t ≠ "--" := by
    rintro rfl
    exact absurd ht (by rw [show Argument.classify? "--" = none by decide]; exact nofun)
  rw [List.singleton_append, Argument.classifyAll?, if_neg hdashes, ht]
  cases Argument.classifyAll? more <;> rfl

theorem classifyAll? (h : Classed args as) : Argument.classifyAll? args = some as := by
  simpa [Argument.classifyAll?] using h []

theorem parse (h : Classed args as) :
    Request.parse args = Request.collect .default true false as := by
  rw [Request.parse, h.classifyAll?]

end Classed

/-- Classed arguments that carry out choices, wherever they stand. -/
structure Carries (as : List Argument) (cs : List Choice) : Prop where
  unseparated : as.head? ≠ some .separator
  collect : ∀ r isOpen extra rest, Request.collect r isOpen extra (as ++ rest) =
    Request.collect (cs.foldl Choice.apply r) isOpen extra rest

/-- A separate value is taken by its option. -/
theorem collect_separate {r r' : Request} {s : Switch} {value : Text}
    (h : r.withValue? (some value) s = some r') (isOpen extra : Bool) (rest : List Argument) :
    Request.collect r isOpen extra (.switch s none :: .positional value :: rest) =
      Request.collect r' isOpen extra rest := by
  cases s with
  | help | table | palette => cases h
  | tokensFile | set | output | logLevel => simp only [Request.collect, h]

theorem collect_attached {r r' : Request} {s : Switch} {value : Text}
    (h : r.withValue? (Request.attached? value) s = some r') (isOpen extra : Bool)
    (rest : List Argument) :
    Request.collect r isOpen extra (.switch s (some value) :: rest) =
      Request.collect r' isOpen extra rest := by
  simp only [Request.collect, h]

theorem collect_positional {r : Request} {t : Text} {rest : List Argument}
    (h : rest.head? ≠ some .separator) (extra : Bool) :
    Request.collect r true extra (.positional t :: rest) =
      Request.collect { r with expression := some t } false extra rest := by
  cases rest with
  | nil => simp [Request.collect]
  | cons a rest => cases a <;> simp_all [Request.collect]

namespace Carries

variable {as bs : List Argument} {cs ds : List Choice} {s : Switch} {c : Choice} {value : Text}

theorem nil : Carries [] [] := ⟨by simp, fun _ _ _ _ => rfl⟩

theorem append (h : Carries as cs) (h' : Carries bs ds) : Carries (as ++ bs) (cs ++ ds) where
  unseparated := by
    cases as with
    | nil => exact h'.unseparated
    | cons a as => exact h.unseparated
  collect r isOpen extra rest := by
    rw [List.append_assoc, h.collect, h'.collect, List.foldl_append]

theorem table : Carries [.switch .table none] [.table] where
  unseparated := by simp
  collect r isOpen extra rest := by
    simp only [List.singleton_append, Request.collect, List.foldl_cons, List.foldl_nil,
      Choice.apply]

theorem attached (hc : Choice.ofSwitch? (Request.attached? value) s = some c) :
    Carries [.switch s (some value)] [c] where
  unseparated := by simp
  collect r isOpen extra rest :=
    collect_attached (Choice.withValue?_of_ofSwitch? hc r) isOpen extra rest

theorem separate (hc : Choice.ofSwitch? (some value) s = some c) :
    Carries [.switch s none, .positional value] [c] where
  unseparated := by simp
  collect r isOpen extra rest :=
    collect_separate (Choice.withValue?_of_ofSwitch? hc r) isOpen extra rest

end Carries

theorem Spells.carries {args : List Text} {cs : List Choice} (h : Spells args cs) :
    ∃ as, Classed args as ∧ Carries as cs := by
  induction h with
  | nil => exact ⟨[], .nil, .nil⟩
  | table ht _ ih =>
    obtain ⟨as, hclassed, hcarries⟩ := ih
    exact ⟨_, (Classed.singleton ht).append hclassed, Carries.table.append hcarries⟩
  | attached ht hc _ ih =>
    obtain ⟨as, hclassed, hcarries⟩ := ih
    exact ⟨_, (Classed.singleton ht).append hclassed, (Carries.attached hc).append hcarries⟩
  | separate ht hvalue hc _ ih =>
    obtain ⟨as, hclassed, hcarries⟩ := ih
    have hboth := (Classed.singleton ht).append (.singleton hvalue)
    exact ⟨_, hboth.append hclassed, (Carries.separate hc).append hcarries⟩

/-! ## Requests -/

namespace Choice

variable {r : Request}

theorem foldl_apply_expression (cs : List Choice) (r : Request) (e : Option Text) :
    cs.foldl apply { r with expression := e } = { cs.foldl apply r with expression := e } := by
  induction cs generalizing r with
  | nil => rfl
  | cons c cs ih =>
    rw [List.foldl_cons, List.foldl_cons, ← ih]
    cases c <;> rfl

theorem foldl_apply_tokensFile (cs : List Choice) (r : Request) (f : Option Text) :
    cs.foldl apply { r with tokensFile := f } = { cs.foldl apply r with tokensFile := f } := by
  induction cs generalizing r with
  | nil => rfl
  | cons c cs ih =>
    rw [List.foldl_cons, List.foldl_cons, ← ih]
    cases c <;> rfl

/-- Choices are about everything but the source of the tokens, and they do not ask for the list of
tokens. -/
theorem request_sourceless (cs : List Choice) :
    (request cs).expression = none ∧ (request cs).tokensFile = none ∧
      (request cs).palette = false := by
  have h (r : Request) : (cs.foldl apply r).expression = r.expression ∧
      (cs.foldl apply r).tokensFile = r.tokensFile ∧ (cs.foldl apply r).palette = r.palette := by
    induction cs generalizing r with
    | nil => exact ⟨rfl, rfl, rfl⟩
    | cons c cs ih => cases c <;> exact ih _
  exact h .default

end Choice

/-- An expression between options. -/
theorem parse_expression {front back : List Text} {cs ds : List Choice} {t : Text}
    (hfront : Spells front cs) (hback : Spells back ds)
    (ht : Argument.classify? t = some (.positional t)) :
    Request.parse (front ++ [t] ++ back) =
      .request { Choice.request (cs ++ ds) with expression := some t } := by
  obtain ⟨as, hclassed, hcarries⟩ := hfront.carries
  obtain ⟨bs, hclassed', hcarries'⟩ := hback.carries
  rw [((hclassed.append (.singleton ht)).append hclassed').parse, List.append_assoc,
    hcarries.collect, List.singleton_append, collect_positional hcarries'.unseparated,
    ← List.append_nil bs, hcarries'.collect, Choice.foldl_apply_expression, Choice.request,
    List.foldl_append]
  rfl

/-- A file of tokens between options. -/
theorem parse_file {front back given : List Text} {cs ds : List Choice} {f : Text}
    (hfront : Spells front cs) (hback : Spells back ds) (hgiven : GivesFile given f) :
    Request.parse (front ++ given ++ back) =
      .request { Choice.request (cs ++ ds) with tokensFile := some f } := by
  obtain ⟨as, hclassed, hcarries⟩ := hfront.carries
  obtain ⟨bs, hclassed', hcarries'⟩ := hback.carries
  obtain ⟨gs, hclassedFile, hcollect⟩ : ∃ gs, Classed given gs ∧ ∀ r rest,
      Request.collect r true false (gs ++ rest) =
        Request.collect { r with tokensFile := some f } true false rest := by
    cases hgiven with
    | separate hf =>
      have hswitch : Argument.classify? "--tokens-file" = some (.switch .tokensFile none) := by
        decide
      exact ⟨_, (Classed.singleton hswitch).append (.singleton hf), fun r rest =>
        collect_separate rfl true false rest⟩
    | attached hf =>
      have hswitch : Argument.classify? ("--tokens-file=" ++ f) =
          some (.switch .tokensFile (some f)) := rfl
      refine ⟨_, .singleton hswitch, fun r rest => collect_attached ?_ true false rest⟩
      rw [Request.attached?, if_neg hf]
      rfl
  rw [((hclassed.append hclassedFile).append hclassed').parse, List.append_assoc,
    hcarries.collect, hcollect, ← List.append_nil bs, hcarries'.collect,
    Choice.foldl_apply_tokensFile, Choice.request, List.foldl_append]
  rfl

/-! ## Arguments without a dash -/

/-- What starts with no dash stands for itself. -/
theorem classify?_of_head? {t : Text} (h : t.head? ≠ some (.char '-')) :
    Argument.classify? t = some (.positional t) := by
  rw [Argument.classify?.eq_def]
  split
  · exact absurd rfl h
  · rfl

/-- An expression that can be read does not look like an option. -/
theorem classify?_of_tokenize {v : Vocabulary} {t : Text} {ts : List Token}
    (h : v.tokenize t = .ok ts) : Argument.classify? t = some (.positional t) := by
  refine classify?_of_head? fun hdash => ?_
  obtain ⟨rest, rfl⟩ := List.head?_eq_some_iff.mp hdash
  have hblank : (CodePoint.char '-').isBlank = false := by decide
  have hletter : (CodePoint.char '-').isLetter = false := by decide +kernel
  have hlexeme : Lexeme.ofText? (.char '-' :: rest) = none := by simp [Lexeme.ofText?, hletter]
  rw [Vocabulary.tokenize, Vocabulary.tokenizeFrom, hblank, if_neg Bool.false_ne_true, hlexeme] at h
  cases h

/-! ## Runs -/

open Vocabulary (standard)

/-- The document of what is read from a text gives the same tokens. -/
theorem loadDocument_of_dump {t document : Text} {ts : List Token}
    (htokens : standard.tokenize t = .ok ts)
    (hdump : standard.dump (Token.items ts) = .ok document) :
    loadDocument standard document = .ok ts := by
  have hranked := Vocabulary.standard_conventional.toRanked
  have hmem := Vocabulary.mem_tokens_of_tokenize htokens
  have hload := Vocabulary.load_dump hranked Vocabulary.standard_legible fun t ht =>
    hranked.defines_of_mem (hmem t ht)
  rw [Vocabulary.dump_items] at hdump
  obtain rfl := Except.ok.inj hdump
  rw [loadDocument, hload, hranked.map_canonicalToken hmem]

/-- A text and the file of its tokens lead requests of the same choices to the same effects. -/
theorem perform_sources {folder : Folder} {r : Request} {t f document : Text} {ts : List Token}
    (hr : r.expression = none ∧ r.tokensFile = none ∧ r.palette = false) (ht : t ≠ []) (hf : f ≠ [])
    (htokens : standard.tokenize t = .ok ts)
    (hdump : standard.dump (Token.items ts) = .ok document)
    (hread : folder.read f = .ok document) :
    Effects.of (perform standard folder { r with expression := some t }) =
      Effects.of (perform standard folder { r with tokensFile := some f }) := by
  obtain ⟨-, htokensFile, hpalette⟩ := hr
  have htext : (loadTokens standard folder { r with expression := some t }).2 = .ok ts := by
    simp [loadTokens, htokensFile, htokens]
  have hfile : (loadTokens standard folder { r with tokensFile := some f }).2 = .ok ts := by
    have hloads : Request.LoadsFrom { r with tokensFile := some f } folder document :=
      ⟨hpalette, f, rfl, hf, hread⟩
    obtain ⟨told, htold⟩ := loadTokens_of_file (v := standard) hloads
    rw [htold]
    exact loadDocument_of_dump htokens hdump
  have ha := effects_of_loadTokens (r := { r with expression := some t }) hpalette (by simp [ht])
    htext
  have hb := effects_of_loadTokens (r := { r with tokensFile := some f }) hpalette (by simp [hf])
    hfile
  -- Neither the truth values nor the answer depends on the source of the tokens.
  exact ha.trans hb.symm

/-- Between the same options an expression and a file that holds the document of its tokens lead to
the same run, apart from its log: it ends in the same way, with the same text printed and the same
files written. -/
theorem sources_agree {folder : Folder} {front back given : List Text} {cs ds : List Choice}
    {t f document : Text} {ts : List Token} (hfront : Spells front cs) (hback : Spells back ds)
    (hgiven : GivesFile given f) (ht : t ≠ []) (hf : f ≠ [])
    (htokens : standard.tokenize t = .ok ts)
    (hdump : standard.dump (Token.items ts) = .ok document)
    (hread : folder.read f = .ok document) :
    ∃ level a b ending, run folder (front ++ [t] ++ back) = .finished level a ending ∧
      run folder (front ++ given ++ back) = .finished level b ending ∧
        a.printed = b.printed ∧ a.written = b.written := by
  have hsourceless := Choice.request_sourceless (cs ++ ds)
  have hexpression := parse_expression hfront hback (classify?_of_tokenize htokens)
  have hfile := parse_file hfront hback hgiven
  cases hlevel : (Choice.request (cs ++ ds)).level with
  | none =>
    exact ⟨.info, .empty, .empty, .noLevel, run_of_noLevel hexpression hlevel folder,
      run_of_noLevel hfile hlevel folder, rfl, rfl⟩
  | some level =>
    obtain ⟨hprinted, hwritten, hending⟩ :=
      Effects.mk.inj (perform_sources hsourceless ht hf htokens hdump hread)
    refine ⟨level, _, _, _, run_of_level hexpression hlevel folder, ?_, hprinted, hwritten⟩
    rw [run_of_level hfile hlevel, hending]

/-- The case of ` )`, which is no expression, between an assignment and a table that is cut short,
against the file of its token, whose name starts with a dash. -/
theorem sources_agree_attached :
    ∃ level a b ending,
      run (Disk.ofFiles [("-t.json", "[\x7b\"type\": \"RPAREN\"\x7d]")]).folder
          ["--set", "B=1", " )", "--tab"] = .finished level a ending ∧
        run (Disk.ofFiles [("-t.json", "[\x7b\"type\": \"RPAREN\"\x7d]")]).folder
          ["--set", "B=1", "--tokens-file=" ++ Text.ofString "-t.json", "--tab"] =
            .finished level b ending ∧
        a.printed = b.printed ∧ a.written = b.written := by
  have hfront : Spells ["--set", "B=1"] [.assignment (some "B=1")] :=
    .separate (s := .set) (by decide) (classify?_of_head? (by decide)) rfl .nil
  have hback : Spells ["--tab"] [.table] := .table (by decide) .nil
  have hgiven : GivesFile ["--tokens-file=" ++ Text.ofString "-t.json"] "-t.json" :=
    .attached (by decide)
  have htokens : standard.tokenize " )" = .ok [.rightParen] := by decide +kernel
  have hdump : standard.dump (Token.items [.rightParen]) =
      .ok "[\x7b\"type\": \"RPAREN\"\x7d]" := by decide +kernel
  have hread : (Disk.ofFiles [("-t.json", "[\x7b\"type\": \"RPAREN\"\x7d]")]).folder.read
      "-t.json" = .ok "[\x7b\"type\": \"RPAREN\"\x7d]" := by decide +kernel
  have h := sources_agree hfront hback hgiven (by decide) (by decide) htokens hdump hread
  simpa only [List.cons_append, List.nil_append] using h

/-- A name that starts with a dash is no separate argument: where `A` is answered, `--tokens-file`
with the name of its file behind it is an error of usage. -/
theorem sources_disagree_dashed :
    standard.tokenize "A" = .ok [.variable "A"] ∧
      standard.dump (Token.items [.variable "A"]) =
        .ok "[\x7b\"type\": \"VAR\", \"value\": \"A\"\x7d]" ∧
      (Disk.ofFiles [("-t.json", "[\x7b\"type\": \"VAR\", \"value\": \"A\"\x7d]")]).folder.read
        "-t.json" = .ok "[\x7b\"type\": \"VAR\", \"value\": \"A\"\x7d]" ∧
      (run (Disk.ofFiles [("-t.json", "[\x7b\"type\": \"VAR\", \"value\": \"A\"\x7d]")]).folder
        ["A"]).exit? =
          some ⟨0, "Result: FALSE  (evaluated under A=false, B=false, C=false)\n", []⟩ ∧
      (run (Disk.ofFiles [("-t.json", "[\x7b\"type\": \"VAR\", \"value\": \"A\"\x7d]")]).folder
        ["--tokens-file", "-t.json"]).exit? = some ⟨2, [], []⟩ := by
  decide +kernel

end InfixLogic.CommandLine
