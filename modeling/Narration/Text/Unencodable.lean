import Narration.Text.Quoted

/-! # Texts outside UTF-8

UTF-8 has no halves, so a text with halves in it cannot be handed on in UTF-8. What keeps it back
are the first halves that stand side by side, and they are told with their place. -/
namespace Narration.Text

/-- What keeps a text out of UTF-8: the first halves in it, and where they stand. -/
def unencodable? (t : Text) : Option Text :=
  let before := (t.takeWhile (!·.isHalf)).length
  let fault (what place : Text) : Text :=
    "'utf-8' codec can't encode " ++ what ++ " in position " ++ place ++ ": surrogates not allowed"
  match (t.drop before).takeWhile (·.isHalf) with
  | [] => none
  | [c] => some (fault ("character '" ++ escaped (.char '\'') c ++ "'") (ofNat before))
  | halves =>
    let last := before + halves.length - 1
    some (fault "characters" (ofNat before ++ "-" ++ ofNat last))

end Narration.Text
