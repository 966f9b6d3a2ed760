import Lending.Text.Casing

/-!
# Lower-case text

The full lower-case form of a text. Two characters have a rule of their own: the capital I with a dot
becomes two characters, and a capital sigma becomes the final form at the end of a word.
-/

namespace Lending.Text

/-- The lower-case form of one character out of its context. -/
def lowerChar (c : Char) : Char :=
  match lowerRuns.find? fun (first, last, step, _) =>
      first ≤ c.toNat && c.toNat ≤ last && (c.toNat - first) % step == 0 with
  | some (_, _, _, distance) => Char.ofNat (c.toNat + distance).toNat
  | none => c

/-- Whether the characters begin, behind those that casing skips, with a cased one. -/
def startsCased (text : List Char) : Bool :=
  match text.dropWhile (inRanges caseIgnorableRanges) with
  | c :: _ => inRanges casedRanges c
  | [] => false

/-- Lower case of a text, given what stands before it in reverse. -/
def lowerBehind (before : List Char) : List Char → List Char
  | [] => []
  | c :: rest =>
    let lowered : List Char :=
      if c.toNat = 0x130 then [Char.ofNat 0x69, Char.ofNat 0x307]
      else if c.toNat = 0x3A3 then
        [Char.ofNat (if startsCased before && !startsCased rest then 0x3C2 else 0x3C3)]
      else [lowerChar c]
    lowered ++ lowerBehind (c :: before) rest

def lowercase (text : String) : String := String.ofList (lowerBehind [] text.toList)

end Lending.Text
