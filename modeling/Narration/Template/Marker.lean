import Narration.Grammar.Breach
import Narration.Text.Word

/-! # Markers

The character in front of a token tells which being the token refers to. It is no word character,
so a token name ends where the next marker begins. -/
namespace Narration

structure Marker where
  char : CodePoint
  notWord : Text.isWord char = false

namespace Marker

def ofText? : Text → Option Marker
  | [c] => if h : Text.isWord c = false then some ⟨c, h⟩ else none
  | _ => none

def ofDatum [Host] (d : Datum) : Except Refusal Marker :=
  match d with
  | .text t =>
    match ofText? t with
    | some m => .ok m
    | none => .error (.breach (.marker d))
  | _ => .error ((Breach.marker d).refusal d.hindrance?)

theorem ofText?_singleton (m : Marker) : ofText? [m.char] = some m := by
  simp [ofText?, m.notWord]

theorem ofDatum_char [Host] (m : Marker) : ofDatum (.text [m.char]) = .ok m := by
  simp [ofDatum, ofText?_singleton]

end Marker
end Narration
