/-!
Base 64. Encoded text stands in lines of 76 characters, each ended by a line feed. Decoding passes over every
character outside the alphabet and stops where the padding of a group is complete; a last group without its padding
is refused.
-/

set_option autoImplicit false

namespace ImageOperator.Text.Base64

def digit (n : Nat) : Char :=
  if n < 26 then Char.ofNat (0x41 + n)
  else if n < 52 then Char.ofNat (0x61 + (n - 26))
  else if n < 62 then Char.ofNat (0x30 + (n - 52))
  else if n = 62 then '+' else '/'

def value? (c : Char) : Option Nat :=
  if 'A' ≤ c && c ≤ 'Z' then some (c.toNat - 0x41)
  else if 'a' ≤ c && c ≤ 'z' then some (c.toNat - 0x61 + 26)
  else if '0' ≤ c && c ≤ '9' then some (c.toNat - 0x30 + 52)
  else if c = '+' then some 62
  else if c = '/' then some 63
  else none

/-- Three bytes make four digits; one or two that are left over are padded. -/
def digits : List UInt8 → List Char
  | [] => []
  | [a] => [digit (a.toNat / 4), digit (a.toNat % 4 * 16), '=', '=']
  | [a, b] => [digit (a.toNat / 4), digit (a.toNat % 4 * 16 + b.toNat / 16), digit (b.toNat % 16 * 4), '=']
  | a :: b :: c :: rest =>
    digit (a.toNat / 4) :: digit (a.toNat % 4 * 16 + b.toNat / 16) ::
      digit (b.toNat % 16 * 4 + c.toNat / 64) :: digit (c.toNat % 64) :: digits rest

/-- Ends every line of a given width, and a shorter last one, given the room left in the current line. -/
def wrap (width : Nat) : Nat → List Char → List Char
  | room, [] => if room = width then [] else ['\n']
  | 0, c :: rest => '\n' :: c :: wrap width (width - 1) rest
  | room + 1, c :: rest => c :: wrap width room rest

def encode (bytes : List UInt8) : List Char :=
  wrap 76 76 (digits bytes)

/-- A group that is being decoded: how many digits it has, what they leave over, and the padding since the last. -/
structure Group where
  count : Nat
  left : Nat
  padding : Nat

namespace Group

def empty : Group := ⟨0, 0, 0⟩

/-- Takes a digit in; from the second digit of a group on each completes a byte. -/
def take (group : Group) (n : Nat) : Option UInt8 × Group :=
  match group.count with
  | 0 => (none, ⟨1, n, 0⟩)
  | 1 => (some (UInt8.ofNat (group.left * 4 + n / 16)), ⟨2, n % 16, 0⟩)
  | 2 => (some (UInt8.ofNat (group.left * 16 + n / 4)), ⟨3, n % 4, 0⟩)
  | _ => (some (UInt8.ofNat (group.left * 64 + n)), empty)

end Group

def decodeFrom : Group → List Char → Option (List UInt8)
  | group, [] => if group.count = 0 then some [] else none
  | group, c :: rest =>
    if c = '=' then
      if group.count < 2 then decodeFrom group rest
      else if 4 ≤ group.count + group.padding + 1 then some []
      else decodeFrom { group with padding := group.padding + 1 } rest
    else match value? c with
      | none => decodeFrom group rest
      | some n =>
        match group.take n with
        | (none, next) => decodeFrom next rest
        | (some byte, next) => (decodeFrom next rest).map (byte :: ·)

def decode (cs : List Char) : Option (List UInt8) :=
  decodeFrom .empty cs

end ImageOperator.Text.Base64
