import Mathlib.Data.List.Forall2
import InfixLogic.Proofs.Escape

/- Reading back what was written as JSON.

   The reader takes the lexemes of a text one after another, with a stack of the lists and objects
   that are open. `readFrom` says where a text leads, and `Reads d v w` what the text of `v` does
   wherever a value is due: the stack stays as it is, and `w` has been read. It holds of null, of a
   text and its echo, and of lists and objects if it holds of what is in them. Only null, which is a
   word, depends on what follows (`Ends`).

   `Plain d v` says that `v` is made of texts, lists and objects, that its texts are written as they
   are, that no object has a name twice, and that lists and objects lie at most `d` deep in it. The
   reader undoes the text of such a value (`read_write`). -/

namespace InfixLogic.Json

/-- A value of texts, lists and objects, with lists and objects at most `d` deep. -/
inductive Plain : Nat → Value → Prop where
  | str {d : Nat} {t : Text} (verbatim : Verbatim t) : Plain d (.str t)
  | list {d : Nat} {vs : List Value} (items : ∀ v ∈ vs, Plain d v) : Plain (d + 1) (.list vs)
  | object {d : Nat} {ms : List (Text × Value)} (names : (ms.map (·.1)).Nodup)
      (verbatim : ∀ m ∈ ms, Verbatim m.1) (values : ∀ m ∈ ms, Plain d m.2) :
      Plain (d + 1) (.object ms)

/-! ## Lexemes -/

/-- A text that does not go on with a bare word. -/
def Ends (rest : Text) : Prop := ∀ c ∈ rest.head?, isBare c = false

theorem ends_nil : Ends [] := fun _ h => nomatch h

section
variable {c : CodePoint} {l : Lexeme}

theorem mark_cases (h : mark? c = some l) :
    isBlank c = false ∧ c ≠ .char '"' ∧ isBare c = false := by
  unfold mark? at h
  split at h
  case h_7 => cases h
  all_goals decide

theorem ends_mark (h : mark? c = some l) (rest : Text) : Ends (c :: rest) := by
  intro d hd
  obtain rfl : c = d := Option.some.inj hd
  exact (mark_cases h).2.2

theorem lexemes_mark (h : mark? c = some l) (rest : Text) :
    lexemes (c :: rest) = l :: lexemes rest := by
  obtain ⟨hblank, hquote, hbare⟩ := mark_cases h
  rw [lexemes, if_neg (by simp [hblank]), if_neg hquote, if_neg (by simp [hbare]), h]

end

theorem lexemes_space (rest : Text) : lexemes (.char ' ' :: rest) = lexemes rest := by
  rw [lexemes, if_pos (by decide)]

theorem lexemes_string (t rest : Text) :
    lexemes (writtenString t ++ rest) = .scalar (.str (echo t)) :: lexemes rest := by
  have hbody : stringBody? (t.flatMap writtenPoint ++ [.char '"'] ++ rest) =
      some (t.flatMap pieces, rest) := by
    rw [List.append_assoc]
    exact stringBody?_written t rest
  rw [writtenString, List.cons_append, List.cons_append, lexemes, if_neg (by decide), if_pos rfl]
  split
  · next ps after hps =>
    obtain ⟨rfl, rfl⟩ := Prod.mk.inj (Option.some.inj (hbody.symm.trans hps))
    rfl
  · next hnone => cases hbody.symm.trans hnone

theorem lexemes_null {rest : Text} (h : Ends rest) :
    lexemes ("null" ++ rest) = .scalar .null :: lexemes rest := by
  have hbare : ∀ c ∈ ("ull" : Text), isBare c = true := by decide
  have hcut : rest.takeWhile isBare = [] ∧ rest.dropWhile isBare = rest := by
    cases rest with
    | nil => exact ⟨rfl, rfl⟩
    | cons c rest => simp [h c rfl]
  show lexemes (.char 'n' :: (Text.ofString "ull" ++ rest)) = _
  rw [lexemes, if_neg (by decide), if_neg (by decide), if_pos (by decide),
    List.takeWhile_append_of_pos hbare, List.dropWhile_append_of_pos hbare, hcut.1, hcut.2]
  rfl

/-! ## Where a text leads -/

/-- The state that the lexemes of a text lead to. -/
def readFrom (s : List Frame × Mode) (t : Text) : Except Refusal (List Frame × Mode) :=
  (lexemes t).foldlM step s

section
variable {s s' : List Frame × Mode}

theorem readFrom_nil (s : List Frame × Mode) : readFrom s [] = .ok s := by
  rw [readFrom, lexemes]
  rfl

theorem readFrom_mark {c : CodePoint} {l : Lexeme} (hc : mark? c = some l)
    (h : step s l = .ok s') (rest : Text) : readFrom s (c :: rest) = readFrom s' rest := by
  rw [readFrom, lexemes_mark hc, List.foldlM_cons, h]
  rfl

theorem readFrom_space (s : List Frame × Mode) (rest : Text) :
    readFrom s (.char ' ' :: rest) = readFrom s rest := by
  rw [readFrom, lexemes_space, readFrom]

theorem readFrom_string {t : Text} (h : step s (.scalar (.str (echo t))) = .ok s')
    (rest : Text) : readFrom s (writtenString t ++ rest) = readFrom s' rest := by
  rw [readFrom, lexemes_string, List.foldlM_cons, h]
  rfl

theorem readFrom_null (h : step s (.scalar .null) = .ok s') {rest : Text} (hrest : Ends rest) :
    readFrom s ("null" ++ rest) = readFrom s' rest := by
  rw [readFrom, lexemes_null hrest, List.foldlM_cons, h]
  rfl

end

/-- A mode in which a value is due: it may be the first item of a list, so that a closing bracket
need not be an error. -/
def Due (stack : List Frame) (m : Mode) : Prop :=
  ∀ l, l ≠ .closeList → step (stack, m) l = stepValue stack l

theorem due_value (stack : List Frame) : Due stack .value := fun _ _ => rfl

theorem due_firstItem (vs : List Value) (stack : List Frame) :
    Due (.list vs :: stack) .firstItem := by
  intro l hl
  cases l with
  | closeList => exact absurd rfl hl
  | _ => rfl

theorem notMem_of_nodup {name : Text} {v : Value} {ms ns : List (Text × Value)}
    (h : ((ms ++ (name, v) :: ns).map (·.1)).Nodup) : name ∉ ms.map (·.1) := by
  rw [List.map_append, List.nodup_append] at h
  exact fun hmem => h.2.2 name hmem name (by simp) rfl

/-- A name that is new goes to the end. -/
theorem setMember_of_notMem {name : Text} {v : Value} {ms : List (Text × Value)}
    (h : name ∉ ms.map (·.1)) : setMember name v ms = ms ++ [(name, v)] := by
  induction ms with
  | nil => rfl
  | cons m ms ih =>
    rw [List.map_cons, List.mem_cons, not_or] at h
    rw [setMember, if_neg fun e => h.1 e.symm, ih h.2]
    rfl

/-- Wherever a value is due with `d` more levels to go, the text of `v` leads behind `w`. -/
def Reads (d : Nat) (v w : Value) : Prop :=
  ∀ (stack : List Frame) (m : Mode), Due stack m → stack.length + d ≤ maxDepth →
    ∀ rest, Ends rest →
      readFrom (stack, m) (write v ++ rest) = readFrom (stack, .after w) rest

/-- A member that is read as one of the same name. -/
structure ReadsMember (d : Nat) (m n : Text × Value) : Prop where
  name : n.1 = m.1
  verbatim : Verbatim m.1
  value : Reads d m.2 n.2

namespace Reads

variable {d : Nat} {stack : List Frame}

theorem null : Reads d .null .null := by
  intro stack m hdue _ rest hrest
  rw [write]
  exact readFrom_null (hdue _ nofun) hrest

theorem str (t : Text) : Reads d (.str t) (.str (echo t)) := by
  intro stack m hdue _ rest _
  rw [write]
  exact readFrom_string (hdue _ nofun) rest

/-- The items of a list up to its end, behind those that have been read. -/
theorem items {v w : Value} {vs ws : List Value} (h : List.Forall₂ (Reads d) (v :: vs) (w :: ws))
    {done : List Value} {m : Mode} (hdue : Due (.list done :: stack) m)
    (hdepth : stack.length + 1 + d ≤ maxDepth) (rest : Text) :
    readFrom (.list done :: stack, m) (writeItems (v :: vs) ++ .char ']' :: rest) =
      readFrom (stack, .after (.list (done.reverse ++ w :: ws))) rest := by
  obtain ⟨hv, hvs⟩ := List.forall₂_cons.mp h
  induction hvs generalizing v w done m with
  | nil =>
    rw [writeItems, hv _ _ hdue hdepth _ (ends_mark rfl rest), readFrom_mark rfl rfl,
      List.reverse_cons]
  | @cons x y xs ys hx hxs ih =>
    have hsplit : writeItems (v :: x :: xs) ++ .char ']' :: rest =
        write v ++ .char ',' :: .char ' ' :: (writeItems (x :: xs) ++ .char ']' :: rest) := by
      simp only [writeItems, List.append_assoc]
      rfl
    rw [hsplit, hv _ _ hdue hdepth _ (ends_mark rfl _), readFrom_mark rfl rfl, readFrom_space,
      ih (.cons hx hxs) (due_value _) hx, List.reverse_cons, List.append_assoc]
    rfl

theorem list {vs ws : List Value} (h : List.Forall₂ (Reads d) vs ws) :
    Reads (d + 1) (.list vs) (.list ws) := by
  intro stack m hdue hdepth rest _
  have hopen : step (stack, m) .openList = .ok (.list [] :: stack, .firstItem) := by
    rw [hdue .openList nofun, stepValue, if_pos (by omega)]
  have hsplit : write (.list vs) ++ rest = .char '[' :: (writeItems vs ++ .char ']' :: rest) := by
    simp only [write, List.append_assoc]
    rfl
  rw [hsplit, readFrom_mark rfl hopen]
  cases h with
  | nil => exact readFrom_mark rfl rfl rest
  | cons hv hvs => exact items (.cons hv hvs) (due_firstItem [] stack) (by omega) rest

/-- A member, where a name is due. -/
theorem member {m n : Text × Value} (h : ReadsMember d m n) {s : List Frame × Mode}
    {done : List (Text × Value)}
    (hs : ∀ name, step s (.scalar (.str name)) = .ok (stack, .colon done name))
    (hdepth : stack.length + 1 + d ≤ maxDepth) {rest : Text} (hrest : Ends rest) :
    readFrom s (writtenString m.1 ++ .char ':' :: .char ' ' :: (write m.2 ++ rest)) =
      readFrom (.object done n.1 :: stack, .after n.2) rest := by
  rw [readFrom_string (hs _), echo_of_verbatim h.verbatim, ← h.name, readFrom_mark rfl rfl,
    readFrom_space]
  exact h.value (.object done n.1 :: stack) .value (due_value _) hdepth rest hrest

/-- The members of an object up to its end, behind those that have been read. -/
theorem members {m n : Text × Value} {ms ns done : List (Text × Value)}
    (h : List.Forall₂ (ReadsMember d) (m :: ms) (n :: ns))
    (names : ((done ++ n :: ns).map (·.1)).Nodup) {s : List Frame × Mode}
    (hs : ∀ name, step s (.scalar (.str name)) = .ok (stack, .colon done name))
    (hdepth : stack.length + 1 + d ≤ maxDepth) (rest : Text) :
    readFrom s (writeMembers (m :: ms) ++ .char '\x7d' :: rest) =
      readFrom (stack, .after (.object (done ++ n :: ns))) rest := by
  obtain ⟨hm, hms⟩ := List.forall₂_cons.mp h
  induction hms generalizing m n done s with
  | nil =>
    have hsplit : writeMembers [m] ++ .char '\x7d' :: rest =
        writtenString m.1 ++ .char ':' :: .char ' ' :: (write m.2 ++ .char '\x7d' :: rest) := by
      simp only [writeMembers, List.append_assoc]
      rfl
    rw [hsplit, member hm hs hdepth (ends_mark rfl rest), readFrom_mark rfl rfl,
      setMember_of_notMem (notMem_of_nodup names)]
  | @cons x y xs ys hx hxs ih =>
    have hsplit : writeMembers (m :: x :: xs) ++ .char '\x7d' :: rest =
        writtenString m.1 ++ .char ':' :: .char ' ' :: (write m.2 ++ .char ',' :: .char ' ' ::
          (writeMembers (x :: xs) ++ .char '\x7d' :: rest)) := by
      simp only [writeMembers, List.append_assoc]
      rfl
    have hdone : done ++ n :: y :: ys = done ++ [n] ++ y :: ys := by simp
    rw [hsplit, member hm hs hdepth (ends_mark rfl _), readFrom_mark rfl rfl,
      setMember_of_notMem (notMem_of_nodup names), readFrom_space, hdone]
    rw [hdone] at names
    exact ih (.cons hx hxs) names (fun _ => rfl) hx

theorem object {ms ns : List (Text × Value)} (h : List.Forall₂ (ReadsMember d) ms ns)
    (names : (ns.map (·.1)).Nodup) : Reads (d + 1) (.object ms) (.object ns) := by
  intro stack m hdue hdepth rest _
  have hopen : step (stack, m) .openObject = .ok (stack, .firstMember) := by
    rw [hdue .openObject nofun, stepValue, if_pos (by omega)]
  have hsplit : write (.object ms) ++ rest =
      .char '\x7b' :: (writeMembers ms ++ .char '\x7d' :: rest) := by
    simp only [write, List.append_assoc]
    rfl
  rw [hsplit, readFrom_mark rfl hopen]
  cases h with
  | nil => exact readFrom_mark rfl rfl rest
  | @cons m n ms ns hm hms =>
    have hdepth : stack.length + 1 + d ≤ maxDepth := by omega
    rw [← List.nil_append (n :: ns)] at names
    exact members (.cons hm hms) names (fun _ => rfl) hdepth rest

/-- A whole text that leads behind a value is read as that value. -/
theorem read {v w : Value} (h : Reads maxDepth v w) : Json.read (write v) = .ok w := by
  have hread := h [] .value (due_value []) (by simp) [] ends_nil
  rw [List.append_nil, readFrom_nil] at hread
  show (readFrom ([], .value) (write v) >>= _) = _
  rw [hread]
  rfl

end Reads

theorem Plain.reads {d : Nat} {v : Value} (h : Plain d v) : Reads d v v := by
  induction h with
  | @str d t verbatim =>
    have hstr := Reads.str (d := d) t
    rwa [echo_of_verbatim verbatim] at hstr
  | list _ ih => exact Reads.list (List.forall₂_same.mpr ih)
  | object names verbatim _ ih =>
    exact Reads.object (List.forall₂_same.mpr fun m hm => ⟨rfl, verbatim m hm, ih m hm⟩) names

/-- Reading undoes writing. -/
theorem read_write {v : Value} (h : Plain maxDepth v) : read (write v) = .ok v := h.reads.read

end InfixLogic.Json
