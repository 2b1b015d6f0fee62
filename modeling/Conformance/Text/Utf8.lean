/-!
# UTF-8

Byte strings are lists of octets, so that cuts and positions are list operations.

* `Piece` : what the next octets of a byte string are: a character, a broken sequence (with the
  number of octets that belong to it), or a sequence that the end of the bytes cuts off;
* `next` : the next piece, given the lead octet and what follows it;
* `decodeLossy` : every broken or cut sequence becomes one replacement character;
* `decode?` : the text, if nothing is broken or cut;
* `decodeCut?` : the complete characters, if nothing is broken; a cut at the end is allowed;
* `encode` : the octets of a text.
-/

namespace Conformance

/-- A byte string. -/
abbrev Bytes := List UInt8

namespace Utf8

/-- The next item of a byte string; `extra` counts the octets after the lead octet. -/
inductive Piece where
  /-- A complete character. -/
  | char (c : Char) (extra : Nat)
  /-- Octets that no text continues. -/
  | broken (extra : Nat)
  /-- The bytes end inside a character. -/
  | cut

/-- The payload of a continuation octet. -/
def payload (b : UInt8) : Nat := b.toNat % 64

/-- Whether `b` is a continuation octet. -/
def isTail (b : UInt8) : Bool := 0x80 ≤ b && b ≤ 0xBF

/-- The piece of a two-octet sequence with lead `a`. -/
def nextTwo (a : UInt8) : Bytes → Piece
  | [] => .cut
  | b :: _ => if isTail b then .char (Char.ofNat (a.toNat % 32 * 64 + payload b)) 1 else .broken 0

/-- The piece of a three-octet sequence with lead `a`, whose second octet lies in `lo` to `hi`. -/
def nextThree (a lo hi : UInt8) : Bytes → Piece
  | [] => .cut
  | b :: r =>
    if lo ≤ b && b ≤ hi then
      match r with
      | [] => .cut
      | c :: _ =>
        if isTail c then .char (Char.ofNat ((a.toNat % 16 * 64 + payload b) * 64 + payload c)) 2
        else .broken 1
    else .broken 0

/-- The piece of a four-octet sequence with lead `a`, whose second octet lies in `lo` to `hi`. -/
def nextFour (a lo hi : UInt8) : Bytes → Piece
  | [] => .cut
  | b :: r =>
    if lo ≤ b && b ≤ hi then
      match r with
      | [] => .cut
      | c :: r =>
        if isTail c then
          match r with
          | [] => .cut
          | d :: _ =>
            if isTail d then
              .char (Char.ofNat
                (((a.toNat % 8 * 64 + payload b) * 64 + payload c) * 64 + payload d)) 3
            else .broken 2
        else .broken 1
    else .broken 0

/-- The piece that starts with the lead octet `a` and continues in `r`. -/
def next (a : UInt8) (r : Bytes) : Piece :=
  if a < 0x80 then .char (Char.ofNat a.toNat) 0
  else if a < 0xC2 then .broken 0
  else if a < 0xE0 then nextTwo a r
  else if a == 0xE0 then nextThree a 0xA0 0xBF r
  else if a == 0xED then nextThree a 0x80 0x9F r
  else if a < 0xF0 then nextThree a 0x80 0xBF r
  else if a == 0xF0 then nextFour a 0x90 0xBF r
  else if a < 0xF4 then nextFour a 0x80 0xBF r
  else if a == 0xF4 then nextFour a 0x80 0x8F r
  else .broken 0

theorem length_drop_lt_cons (a : UInt8) (r : Bytes) (n : Nat) :
    (r.drop n).length < (a :: r).length := by
  rw [List.length_drop, List.length_cons]
  exact Nat.lt_succ_of_le (Nat.sub_le ..)

/-- The characters of a byte string, with U+FFFD for each broken or cut sequence. -/
def decodeLossy : Bytes → List Char
  | [] => []
  | a :: r =>
    match next a r with
    | .char c extra => c :: decodeLossy (r.drop extra)
    | .broken extra => '\uFFFD' :: decodeLossy (r.drop extra)
    | .cut => ['\uFFFD']
  termination_by bs => bs.length
  decreasing_by all_goals exact length_drop_lt_cons ..

/-- The complete characters of a byte string; nothing if a sequence is broken. -/
def decodeCut? : Bytes → Option (List Char)
  | [] => some []
  | a :: r =>
    match next a r with
    | .char c extra => (decodeCut? (r.drop extra)).map (c :: ·)
    | .broken _ => none
    | .cut => some []
  termination_by bs => bs.length
  decreasing_by exact length_drop_lt_cons ..

/-- The characters of a byte string that is a text as a whole. -/
def decode? : Bytes → Option (List Char)
  | [] => some []
  | a :: r =>
    match next a r with
    | .char c extra => (decode? (r.drop extra)).map (c :: ·)
    | .broken _ => none
    | .cut => none
  termination_by bs => bs.length
  decreasing_by exact length_drop_lt_cons ..

/-- The octets of a list of characters. -/
def encode (cs : List Char) : Bytes := cs.flatMap String.utf8EncodeChar

end Utf8

/-- The text of captured bytes, with replacement characters where they are not UTF-8. -/
def Bytes.toText (bs : Bytes) : String := String.ofList (Utf8.decodeLossy bs)

/-- The octets of a text. -/
def Bytes.ofText (s : String) : Bytes := Utf8.encode s.toList

end Conformance
