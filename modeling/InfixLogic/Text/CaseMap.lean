import InfixLogic.Text.CaseTable
import InfixLogic.Text.CaseContext

/- The upper-case and the lower-case form of a text.

   Most characters map one by one. A few have a longer form (`ß` gives `SS`, `İ` gives `i` and
   a dot above), and a capital sigma that ends a word has the final lower-case form. -/

namespace InfixLogic

namespace CodePoint

def upper : CodePoint → Text
  | .char c =>
    match upperExpansions.lookup c.toNat with
    | some ns => ns.map ofNat
    | none => [ofNat (formIn c.toNat upperRows)]
  | .lone n => [.lone n]

def lower : CodePoint → Text
  | .char 'İ' => ofChars ['i', Char.ofNat 0x0307]
  | .char c => [ofNat (formIn c.toNat lowerRows)]
  | .lone n => [.lone n]
where
  ofChars (cs : List Char) : Text := cs.map .char

end CodePoint

namespace Text

def upper (t : Text) : Text := t.flatMap CodePoint.upper

/-- The first code point that is not looked past has case. -/
def startsCased (t : Text) : Bool :=
  (t.dropWhile CodePoint.isCaseIgnorable).head?.any CodePoint.isCased

/-- The lower-case form of a text that follows `before`, the code points before it in
reverse. A sigma is final if a letter with case stands before it and none after it. -/
def lowerAfter (before : Text) : Text → Text
  | [] => []
  | c :: rest =>
    let form :=
      if c = .char 'Σ' then
        [.char (if startsCased before && !startsCased rest then 'ς' else 'σ')]
      else c.lower
    form ++ lowerAfter (c :: before) rest

def lower (t : Text) : Text := lowerAfter [] t

end Text

end InfixLogic
