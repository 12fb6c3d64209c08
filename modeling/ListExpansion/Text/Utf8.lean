/-
# ListExpansion.Text.Utf8 -- reading octets as UTF-8

One machine reads octets one at a time and stands, between two of them, either
between characters or inside one (`Partial`: how many octets are owed and the
bounds of the next).  An octet outside those bounds ends the broken part just
before it and is then read afresh, so a broken part is always the longest run of
octets that some character starts with, or one octet that starts none.

Everything is stated through the pieces the machine cuts its input into:

* `decode?` is the text when no piece is broken;
* `lossy` puts U+FFFD for each broken piece;
* `pieces_octets` says that the cut loses nothing.
-/
import ListExpansion.Bytes

namespace ListExpansion.Utf8

set_option autoImplicit false

/-- A part of the input: a character, or octets that are part of none. -/
inductive Piece where
  | char (c : Char) (octets : Bytes)
  | broken (octets : Bytes)

/-- The octets a piece was cut from. -/
def Piece.octets : Piece → Bytes
  | .char _ octets => octets
  | .broken octets => octets

/-- Inside a character: `owed` octets are still to come, the next between `low`
and `high`; `bits` is what the octets `seen` have spelled so far. -/
structure Partial where
  owed : Nat
  low : UInt8
  high : UInt8
  bits : Nat
  seen : Bytes

/-- What a first octet starts. -/
inductive Opening where
  | complete (c : Char)
  | inside (state : Partial)
  | nothing

/-- The first octet fixes the length of a character.  After E0, ED, F0 and F4 the
second octet has narrower bounds, which shut out overlong forms, surrogates and
code points above U+10FFFF. -/
def Opening.of (b : UInt8) : Opening :=
  let v := b.toNat
  if v < 0x80 then .complete (Char.ofNat v)
  else if v < 0xC2 then .nothing
  else if v < 0xE0 then .inside ⟨1, 0x80, 0xBF, v - 0xC0, [b]⟩
  else if v = 0xE0 then .inside ⟨2, 0xA0, 0xBF, 0, [b]⟩
  else if v = 0xED then .inside ⟨2, 0x80, 0x9F, 0xD, [b]⟩
  else if v < 0xF0 then .inside ⟨2, 0x80, 0xBF, v - 0xE0, [b]⟩
  else if v = 0xF0 then .inside ⟨3, 0x90, 0xBF, 0, [b]⟩
  else if v < 0xF4 then .inside ⟨3, 0x80, 0xBF, v - 0xF0, [b]⟩
  else if v = 0xF4 then .inside ⟨3, 0x80, 0x8F, 4, [b]⟩
  else .nothing

/-- The octet `b` read between characters: the pieces it finishes and the new state. -/
def start (b : UInt8) : List Piece × Option Partial :=
  match Opening.of b with
  | .complete c => ([.char c [b]], none)
  | .inside state => ([], some state)
  | .nothing => ([.broken [b]], none)

/-- The octet `b` read in `state`: the pieces it finishes and the new state. -/
def advance : Option Partial → UInt8 → List Piece × Option Partial
  | none, b => start b
  | some p, b =>
      if p.low ≤ b ∧ b ≤ p.high then
        let bits := p.bits * 64 + (b.toNat - 0x80)
        let seen := p.seen ++ [b]
        if p.owed ≤ 1 then ([.char (Char.ofNat bits) seen], none)
        else ([], some ⟨p.owed - 1, 0x80, 0xBF, bits, seen⟩)
      else
        let (finished, state) := start b
        (.broken p.seen :: finished, state)

/-- The pieces of the octets that follow `state`. -/
def piecesFrom : Option Partial → Bytes → List Piece
  | none, [] => []
  | some p, [] => [.broken p.seen]
  | state, b :: rest =>
      let (finished, state') := advance state b
      finished ++ piecesFrom state' rest

/-- The input cut into characters and broken parts, in order. -/
def pieces (octets : Bytes) : List Piece :=
  piecesFrom none octets

/-- The octets a state holds back. -/
def held : Option Partial → Bytes
  | none => []
  | some p => p.seen

/-- A character that has been started has seen just its first octet. -/
theorem Opening.seen_of_inside {b : UInt8} {state : Partial}
    (opened : Opening.of b = .inside state) : state.seen = [b] := by
  unfold Opening.of at opened
  simp only [] at opened
  repeat' split at opened
  all_goals cases opened
  all_goals rfl

theorem start_octets (b : UInt8) :
    (start b).1.flatMap Piece.octets ++ held (start b).2 = [b] := by
  unfold start
  split
  · rfl
  · next state opened => simpa [held] using Opening.seen_of_inside opened
  · rfl

theorem advance_octets (state : Option Partial) (b : UInt8) :
    (advance state b).1.flatMap Piece.octets ++ held (advance state b).2
      = held state ++ [b] := by
  cases state with
  | none => simpa [advance, held] using start_octets b
  | some p =>
    unfold advance
    by_cases inBounds : p.low ≤ b ∧ b ≤ p.high
    · by_cases last : p.owed ≤ 1 <;> simp [inBounds, last, held, Piece.octets]
    · have := start_octets b
      simp only [inBounds, if_false, List.flatMap_cons, Piece.octets, List.append_assoc]
      rw [this]; rfl

theorem piecesFrom_octets (state : Option Partial) (rest : Bytes) :
    (piecesFrom state rest).flatMap Piece.octets = held state ++ rest := by
  induction rest generalizing state with
  | nil => cases state <;> simp [piecesFrom, held, Piece.octets]
  | cons b rest ih =>
    have step := advance_octets state b
    have cons : piecesFrom state (b :: rest)
        = (advance state b).1 ++ piecesFrom (advance state b).2 rest := by
      cases state <;> rfl
    rw [cons, List.flatMap_append, ih, ← List.append_assoc, step]
    simp

/-- The cut loses nothing. -/
theorem pieces_octets (octets : Bytes) : (pieces octets).flatMap Piece.octets = octets := by
  simpa [pieces, held] using piecesFrom_octets none octets

/-- The character of a piece, if it is one. -/
def Piece.char? : Piece → Option Char
  | .char c _ => some c
  | .broken _ => none

/-- What a piece shows in running text: U+FFFD stands for a broken one. -/
def Piece.shown : Piece → Char
  | .char c _ => c
  | .broken _ => Char.ofNat 0xFFFD

/-- The text the octets encode, if they are UTF-8. -/
def decode? (octets : Bytes) : Option String :=
  ((pieces octets).mapM Piece.char?).map String.ofList

/-- Whether the octets are UTF-8. -/
def isText (octets : Bytes) : Bool :=
  (pieces octets).all fun piece => piece.char?.isSome

/-- The octets as text for a reader, who sees U+FFFD for each broken part. -/
def lossy (octets : Bytes) : String :=
  String.ofList ((pieces octets).map Piece.shown)

end ListExpansion.Utf8
