import InfixLogic.Proofs.Pairing
import InfixLogic.Proofs.Placing

/- Where the tokens of an expression stand in its postfix form.

   What stands between a pair of parentheses goes to the output in one block. Between the two the
   stack holds the marker of the pair, and tokens that close only what they have opened themselves
   leave the marker and all below it alone (`Reads.frame`), so at the closing parenthesis everything
   that was taken in since lies on top, in the output and on the stack (`exists_block`).

   `Arrangement` collects what is known of a postfix form: it is the expression rearranged, with the
   parentheses left out, the operands in their order and every group in one piece. Together with the
   balance of parentheses and the faults of those that have no partner this is `toPostfix_rearranges`,
   which holds whatever precedences and groupings the operators have. -/

namespace InfixLogic

open Token (openings closings)

namespace Placing

variable {p q : Placing} {m : Token × Nat}

/-! ## Groups -/

/-- What is let go from above a marker does not reach it. -/
theorem append_above {ops rest inner below : List (Token × Nat)} (hops : Unmarked ops)
    (hm : m.1.tag = .leftParen) (h : ops ++ rest = inner ++ m :: below) :
    ∃ inner', inner = ops ++ inner' ∧ rest = inner' ++ m :: below := by
  rcases List.append_eq_append_iff.mp h with ⟨inner', rfl, rfl⟩ | ⟨cs, rfl, hcs⟩
  · exact ⟨inner', rfl, rfl⟩
  · cases cs with
    | nil => exact ⟨[], by simp, hcs.symm⟩
    | cons c cs =>
      obtain ⟨rfl, -⟩ := List.cons.inj hcs
      exact absurd hm (hops m (by simp))

theorem openings_of_unmarked {ops : List (Token × Nat)} (h : Unmarked ops) :
    openings (ops.map Prod.fst) = 0 :=
  List.countP_eq_zero.mpr fun t ht => by
    obtain ⟨o, ho, rfl⟩ := List.mem_map.mp ht
    simpa using h o ho

theorem unmarked_of_openings {ops : List (Token × Nat)} (h : openings (ops.map Prod.fst) = 0) :
    Unmarked ops := fun o ho => by
  simpa using List.countP_eq_zero.mp h o.1 (List.mem_map_of_mem ho)

/-- Tokens that close all that is open above a marker, and not the marker, leave it and what lies
below it as they are. -/
theorem Reads.frame {below : List (Token × Nat)} (hm : m.1.tag = .leftParen) :
    ∀ (inner : List (Token × Nat)) {output as : List (Token × Nat)} {q : Placing},
      Reads ⟨output, inner ++ m :: below⟩ as q →
      BalancedFrom (openings (inner.map Prod.fst)) (as.map Prod.fst) →
      ∃ new ops, q = ⟨new ++ output, ops ++ m :: below⟩ ∧ Unmarked ops := by
  intro inner output as
  induction as generalizing inner output with
  | nil =>
    rintro q ⟨⟩ hbal
    exact ⟨[], inner, rfl, unmarked_of_openings (BalancedFrom.nil_iff.mp hbal)⟩
  | cons a as ih =>
    intro q h hbal
    obtain ⟨n, hmove, hrest⟩ := h.uncons
    generalize hp : (⟨output, inner ++ m :: below⟩ : Placing) = p at hmove
    cases hmove with
    | operand tag =>
      obtain ⟨rfl, rfl⟩ := Placing.mk.inj hp
      have hneutral : a.1.isGrouper = false := by simp [Token.isGrouper, tag]
      obtain ⟨new, ops, rfl, hops⟩ := ih inner hrest ((BalancedFrom.neutral_iff hneutral).mp hbal)
      exact ⟨new ++ [a], ops, by simp, hops⟩
    | operator tag _ released rest hreleased =>
      obtain ⟨rfl, hstack⟩ := Placing.mk.inj hp
      obtain ⟨inner, rfl, rfl⟩ := append_above hreleased hm hstack.symm
      have hneutral : a.1.isGrouper = false := by simp [Token.isGrouper, tag]
      have hdepth : openings ((a :: inner).map Prod.fst) =
          openings ((released ++ inner).map Prod.fst) := by
        rw [List.map_append, openings_append, openings_of_unmarked hreleased, List.map_cons,
          openings_cons, (counts_of_neutral hneutral).1]
      have hinner := (BalancedFrom.neutral_iff hneutral).mp hbal
      rw [← hdepth] at hinner
      obtain ⟨new, ops, rfl, hops⟩ := ih (a :: inner) hrest hinner
      exact ⟨new ++ released.reverse, ops, by simp, hops⟩
    | leftParen tag =>
      obtain ⟨rfl, rfl⟩ := Placing.mk.inj hp
      have hdepth : openings ((a :: inner).map Prod.fst) = openings (inner.map Prod.fst) + 1 := by
        rw [List.map_cons, openings_cons, (counts_of_leftParen tag).1, Nat.add_comm]
      have hinner := (BalancedFrom.open_iff tag).mp hbal
      rw [← hdepth] at hinner
      exact ih (a :: inner) hrest hinner
    | rightParen tag _ released rest k hreleased hk =>
      obtain ⟨rfl, hstack⟩ := Placing.mk.inj hp
      obtain ⟨tail, rfl, htail⟩ := append_above hreleased hm hstack.symm
      obtain ⟨d, hd, hclosed⟩ := (BalancedFrom.close_iff tag).mp hbal
      rw [List.map_append, openings_append, openings_of_unmarked hreleased] at hd
      -- Something is open above the marker, so it is not the marker that is closed.
      cases tail with
      | nil => simp [openings] at hd
      | cons c inner =>
        obtain ⟨rfl, rfl⟩ := List.cons.inj htail
        rw [List.map_cons, openings_cons, (counts_of_leftParen hk).1] at hd
        obtain rfl : openings (inner.map Prod.fst) = d := by omega
        obtain ⟨new, ops, rfl, hops⟩ := ih inner hrest hclosed
        exact ⟨new ++ released.reverse, ops, by simp, hops⟩

/-- The tokens of a group go to the output next to each other. -/
theorem exists_block {xs es ys : List (Token × Nat)} {l r : Token × Nat}
    (hl : l.1.tag = .leftParen) (hr : r.1.tag = .rightParen) (hes : Balanced (es.map Prod.fst))
    (h : Reads p (xs ++ l :: (es ++ r :: ys)) q) :
    ∃ block : List (Token × Nat), block <:+: q.output ∧
      block.Perm (es.filter (!·.1.isGrouper)) := by
  obtain ⟨⟨output, below⟩, -, h⟩ := h.split
  obtain ⟨m, hopen, h⟩ := h.uncons
  obtain ⟨n, hinner, h⟩ := h.split
  obtain ⟨k, hclose, hys⟩ := h.uncons
  cases hopen with
  | operand tag | operator tag | rightParen tag => cases hl.symm.trans tag
  | leftParen =>
    obtain ⟨new, ops, rfl, hops⟩ := Reads.frame hl [] hinner hes
    generalize hn : (⟨new ++ output, ops ++ l :: below⟩ : Placing) = n at hclose
    cases hclose with
    | operand tag | operator tag | leftParen tag => cases hr.symm.trans tag
    | rightParen tag _ released rest k hreleased hk =>
      obtain ⟨rfl, hstack⟩ := Placing.mk.inj hn
      obtain ⟨tail, rfl, htail⟩ := append_above hreleased hl hstack.symm
      -- The topmost marker is that of the group, so all that is above it goes.
      obtain rfl : tail = [] := by
        cases tail with
        | nil => rfl
        | cons c tail =>
          obtain ⟨rfl, -⟩ := List.cons.inj htail
          exact absurd hk (hops k (by simp))
      rw [List.append_nil] at *
      refine ⟨released.reverse ++ new, ?_, ?_⟩
      · refine .trans ?_ hys.output_suffix.isInfix
        exact ⟨[], output, by simp⟩
      · have hheld := hinner.held
        simp only [Placing.held, List.filter_append, filter_of_unmarked hops] at hheld
        rw [List.perm_iff_count] at hheld ⊢
        intro b
        have hcount := hheld b
        simp only [List.count_append, List.count_reverse] at hcount ⊢
        omega

end Placing

/-! ## Postfix forms -/

/-- A postfix form as the tokens of the expression with their places: all of them but the
parentheses, the operands in their order, and what stands between a pair of parentheses next to each
other. -/
structure Arrangement (v : Vocabulary) (ts us : List Token) (placed : List (Token × Nat)) : Prop where
  tokens : placed.map Prod.fst = us
  places : placed.Perm ((ts.map v.canonicalToken).zipIdx.filter (!·.1.isGrouper))
  operands : placed.filter (·.1.isOperand) =
    (ts.map v.canonicalToken).zipIdx.filter (·.1.isOperand)
  groups : ∀ i j, Encloses ts i j →
    ∃ block, block <:+: placed ∧ ∀ a ∈ placed, a ∈ block ↔ i < a.2 ∧ a.2 < j

/-- Of tokens with their places those between two places stand between these places. -/
theorem mem_inner_iff {xs es ys : List Token} {l r : Token} {a : Token × Nat}
    (h : a ∈ (xs ++ l :: (es ++ r :: ys)).zipIdx) :
    a ∈ es.zipIdx (xs.length + 1) ↔ xs.length < a.2 ∧ a.2 < xs.length + 1 + es.length := by
  constructor
  · intro hin
    obtain ⟨hlow, hhigh, -⟩ := List.mem_zipIdx hin
    omega
  · rintro ⟨hlow, hhigh⟩
    simp only [List.zipIdx_append, List.zipIdx_cons, List.mem_append, List.mem_cons] at h
    rcases h with hx | rfl | he | rfl | hy
    · obtain ⟨-, hx, -⟩ := List.mem_zipIdx hx
      omega
    · simp at hlow
    · simpa using he
    · simp at hhigh
    · obtain ⟨hy, -, -⟩ := List.mem_zipIdx hy
      omega

/-- In a run from the beginning what stands between a pair of parentheses stays together. -/
theorem Placing.Reads.groups {cs : List Token} {q : Placing} (h : Reads .start cs.zipIdx q)
    (hno : Unmarked q.stack) {i j : Nat} (hpair : Encloses cs i j) :
    ∃ block, block <:+: q.output.reverse ++ q.stack ∧
      ∀ a ∈ q.output.reverse ++ q.stack, a ∈ block ↔ i < a.2 ∧ a.2 < j := by
  have hperm := Vocabulary.perm_of_reads h hno
  cases hpair with
  | @intro xs es ys l r opening closing inner =>
    have hsplit : (xs ++ l :: (es ++ r :: ys)).zipIdx =
        xs.zipIdx ++ (l, xs.length) :: (es.zipIdx (xs.length + 1) ++
          (r, xs.length + 1 + es.length) :: ys.zipIdx (xs.length + 1 + es.length + 1)) := by
      simp [List.zipIdx_append, List.zipIdx_cons]
    rw [hsplit] at h
    obtain ⟨block, hinfix, hblock⟩ :=
      exists_block (l := (l, _)) (r := (r, _)) opening closing (by simpa using inner) h
    refine ⟨block.reverse, ?_, fun a ha => ?_⟩
    · exact (List.reverse_infix.mpr hinfix).trans (List.prefix_append _ _).isInfix
    · obtain ⟨hmem, hneutral⟩ := List.mem_filter.mp (hperm.mem_iff.mp ha)
      rw [List.mem_reverse, hblock.mem_iff, List.mem_filter, and_iff_left hneutral]
      exact mem_inner_iff hmem

namespace Vocabulary

variable {v : Vocabulary} {ts us : List Token}

theorem arrangement_of_toPostfix (h : v.toPostfix (Token.items ts) = .ok us) :
    ∃ placed, Arrangement v ts us placed := by
  obtain ⟨q, hq, hno, rfl⟩ := exists_reads_of_toPostfix h
  have hstart : Placing.InOrder [] .start := ⟨rfl, rfl⟩
  obtain ⟨hstack, houtput⟩ := hq.inOrder hstart
  refine ⟨q.output.reverse ++ q.stack, rfl, perm_of_reads hq hno, ?_, fun i j hpair => ?_⟩
  · rw [List.filter_append, List.filter_reverse, houtput, hstack]
    simp
  · exact hq.groups hno (hpair.map_canonicalToken v)

/-- A postfix form has the operands in the order of the expression. -/
theorem operands_toPostfix (h : v.toPostfix (Token.items ts) = .ok us) :
    us.filter (·.isOperand) = (ts.map v.canonicalToken).filter (·.isOperand) := by
  obtain ⟨placed, hplaced⟩ := arrangement_of_toPostfix h
  have hmap := congrArg (List.map Prod.fst) hplaced.operands
  rwa [← Function.comp_def Token.isOperand Prod.fst, ← List.filter_map, ← List.filter_map,
    hplaced.tokens, List.zipIdx_map_fst] at hmap

end Vocabulary

open Vocabulary (standard)

/-- An expression has a postfix form exactly if its parentheses match. The postfix form holds the
canonical forms of all tokens but the parentheses, the operands in their order and every group in
one piece, whatever the precedences and groupings are. Without a postfix form the parentheses are at
fault: the position is that of the first closing one that has no partner, and there is none if all
of them have one. -/
theorem toPostfix_rearranges (v : Vocabulary) (ts : List Token) :
    ((∃ us, v.toPostfix (Token.items ts) = .ok us) ↔ Balanced ts) ∧
      (∀ us, v.toPostfix (Token.items ts) = .ok us →
        (∀ u ∈ us, u.isGrouper = false) ∧
          us.Perm ((ts.map v.canonicalToken).filter (!·.isGrouper)) ∧
          us.filter (·.isOperand) = (ts.map v.canonicalToken).filter (·.isOperand) ∧
          ∃ placed, Arrangement v ts us placed) ∧
      ∀ f, v.toPostfix (Token.items ts) = .error f →
        f.kind = .mismatchedParentheses ∧
          (∀ p, f.position = some p ↔ IsLeast {q | Unmatched ts q} p) ∧
          (f.position = none ↔ ∀ q, ¬ Unmatched ts q) := by
  refine ⟨v.toPostfix_ok_iff_balanced ts, fun us h => ⟨fun u hu => ?_, Vocabulary.toPostfix_perm h,
    Vocabulary.operands_toPostfix h, Vocabulary.arrangement_of_toPostfix h⟩, fun f h => ?_⟩
  · have hmem := (Vocabulary.toPostfix_perm h).mem_iff.mp hu
    simpa using (List.mem_filter.mp hmem).2
  · refine ⟨Vocabulary.kind_of_toPostfix_error h, ?_⟩
    rcases Vocabulary.position_of_toPostfix_error h with ⟨j, rfl, hleast⟩ | ⟨rfl, hnone⟩
    · refine ⟨fun p => ?_, nofun, fun hno => absurd hleast.1 (hno j)⟩
      constructor
      · intro hp
        obtain rfl := Option.some.inj hp
        exact hleast
      · exact fun hp => congrArg some (hleast.unique hp)
    · exact ⟨fun p => ⟨nofun, fun hp => absurd hp.1 (hnone p)⟩, fun _ => hnone, fun _ => rfl⟩

/-- The cases of `[ A XOR B ] XOR C` with parentheses of another name, where the XOR of the group has
a lower precedence than the other, of `A ) ( )`, which fails at its first closing parenthesis, and of
`( A )` behind a parenthesis that stays open. -/
theorem toPostfix_rearranges_foreign :
    (∃ placed, Arrangement standard
      [.plain .leftParen "[", .variable "A", ⟨.operator, "XOR", none, none, 2, -1, true⟩,
        .variable "B", .plain .rightParen "]", ⟨.operator, "XOR", none, none, 2, 7, false⟩,
        .variable "C"]
      [.variable "A", .variable "B", ⟨.operator, "XOR", none, none, 2, -1, true⟩, .variable "C",
        ⟨.operator, "XOR", none, none, 2, 7, false⟩] placed) ∧
      IsLeast {q | Unmatched [.variable "A", .rightParen, .leftParen, .rightParen] q} 1 ∧
      ∀ q, ¬ Unmatched [.leftParen, .leftParen, .variable "A", .rightParen] q :=
  ⟨((toPostfix_rearranges standard _).2.1 _ (by decide)).2.2.2,
    (((toPostfix_rearranges standard [.variable "A", .rightParen, .leftParen, .rightParen]).2.2
      (.unmatchedClosing 1) (by decide)).2.1 1).mp rfl,
    ((toPostfix_rearranges standard [.leftParen, .leftParen, .variable "A", .rightParen]).2.2
      .unmatchedOpening (by decide)).2.2.mp rfl⟩

end InfixLogic
