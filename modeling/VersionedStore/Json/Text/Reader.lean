import VersionedStore.Json.Text

/-!
# Reading JSON texts

The form of a JSON text is read off its octets: any white space between the parts, no
octet below U+0020 inside a string, numbers without superfluous zeros, nothing but white
space after the text. Nesting is not limited, and octets from 0x80 on may be anything.

## Main definitions

* `Json.Text.parse?` — the text that some octets hold, if they hold one
-/

namespace VersionedStore.Json

/-- The octets after leading white space: space, tab, line feed, carriage return. -/
def skipSpace : Bytes → Bytes
  | [] => []
  | b :: rest =>
    if b == octet ' ' || b == octet '\n' || b == octet '\r' || b == octet '\t' then skipSpace rest
    else b :: rest

/-- The octets after a given word at their front. -/
def stripWord? : Bytes → Bytes → Option Bytes
  | [], bs => some bs
  | _ :: _, [] => none
  | w :: ws, b :: rest => if w = b then stripWord? ws rest else none

/-- The longest stretch of digits at the front, and what follows it. -/
def takeDigits : Bytes → List Digit × Bytes
  | [] => ([], [])
  | b :: rest =>
    match Digit.ofOctet? b with
    | none => ([], b :: rest)
    | some d => (d :: (takeDigits rest).1, (takeDigits rest).2)

/-! ### Numbers -/

namespace Literal

/-- The digits of an exponent after its sign. -/
def readExponentDigits (sign : ExponentSign) (bs : Bytes) : Option (Option Exponent × Bytes) :=
  match takeDigits bs with
  | ([], _) => none
  | (ds, rest) => some (some ⟨sign, ds⟩, rest)

/-- The exponent at the front, if a letter `e` announces one. -/
def readExponent : Bytes → Option (Option Exponent × Bytes)
  | [] => some (none, [])
  | b :: rest =>
    if b == octet 'e' || b == octet 'E' then
      match rest with
      | [] => none
      | s :: more =>
        if s = octet '+' then readExponentDigits .plus more
        else if s = octet '-' then readExponentDigits .minus more
        else readExponentDigits .absent (s :: more)
    else some (none, b :: rest)

/-- The digits after the point at the front, if there is a point. -/
def readFraction : Bytes → Option (Option (List Digit) × Bytes)
  | [] => some (none, [])
  | b :: rest =>
    if b = octet '.' then
      match takeDigits rest with
      | ([], _) => none
      | (ds, rest) => some (some ds, rest)
    else some (none, b :: rest)

/-- The digits before the point; a zero stands alone. -/
def readWhole (bs : Bytes) : Option (List Digit × Bytes) :=
  match takeDigits bs with
  | ([], _) => none
  -- All digits are taken first, so a zero in front of others is a fault and no end.
  | (d :: ds, rest) => if d.val = 0 ∧ ds ≠ [] then none else some (d :: ds, rest)

/-- The number at the front, its minus sign already taken off. -/
def readUnsigned (negative : Bool) (bs : Bytes) : Option (Literal × Bytes) :=
  match readWhole bs with
  | none => none
  | some (whole, rest) =>
    match readFraction rest with
    | none => none
    | some (fraction, rest) =>
      match readExponent rest with
      | none => none
      | some (exponent, rest) => some (⟨negative, whole, fraction, exponent⟩, rest)

/-- The number at the front. -/
def read : Bytes → Option (Literal × Bytes)
  | [] => none
  | b :: rest => if b = octet '-' then readUnsigned true rest else readUnsigned false (b :: rest)

end Literal

/-! ### Strings -/

namespace Symbol

/-- The octet that a backslash and the given character stand for. -/
def shortEscape? (c : UInt8) : Option UInt8 :=
  if c = octet '/' then some c
  else (shortEscapes.find? fun e => e.2 == c).map (·.1)

/-- The unit of four hexadecimal digits. -/
def unitOfHex? (a b c d : UInt8) : Option UInt16 :=
  match Hexadecimal.value? a, Hexadecimal.value? b, Hexadecimal.value? c, Hexadecimal.value? d with
  | some a, some b, some c, some d =>
    some (UInt16.ofNat (a.val * 0x1000 + b.val * 0x100 + c.val * 0x10 + d.val))
  | _, _, _, _ => none

/-- The pieces of a string up to its closing quote, and what follows the quote. -/
def readQuoted : Bytes → Option (List Symbol × Bytes)
  | [] => none
  | b :: rest =>
    if b = octet '"' then some ([], rest)
    else if b = octet '\\' then
      match rest with
      | [] => none
      | c :: rest =>
        if c = octet 'u' then
          match rest with
          | h₁ :: h₂ :: h₃ :: h₄ :: rest =>
            -- Whether two units make a character is decided where the meaning is asked for.
            match unitOfHex? h₁ h₂ h₃ h₄, readQuoted rest with
            | some u, some (s, rest) => some (unit u :: s, rest)
            | _, _ => none
          | _ => none
        else
          match shortEscape? c, readQuoted rest with
          | some b, some (s, rest) => some (plain b :: s, rest)
          | _, _ => none
    else if b < 0x20 then none
    else
      match readQuoted rest with
      | some (s, rest) => some (plain b :: s, rest)
      | none => none

end Symbol

/-! ### Texts -/

namespace Text

/-- The key of a member and its colon. -/
def readKey (bs : Bytes) : Option (List Symbol × Bytes) :=
  match skipSpace bs with
  | [] => none
  | b :: rest =>
    if b = octet '"' then
      match Symbol.readQuoted rest with
      | none => none
      | some (k, rest) =>
        match skipSpace rest with
        | [] => none
        | c :: rest => if c = octet ':' then some (k, rest) else none
    else none

mutual

/-- The text at the front, after white space. Every step takes one of `fuel`. -/
def read : (fuel : Nat) → Bytes → Option (Text × Bytes)
  | 0, _ => none
  | fuel + 1, bs =>
    match skipSpace bs with
    | [] => none
    | b :: rest =>
      if b = octet '"' then
        (Symbol.readQuoted rest).map fun r => (string r.1, r.2)
      else if b = octet '[' then
        (readElements fuel rest).map fun r => (array r.1, r.2)
      else if b = octet '\x7b' then
        (readMembers fuel rest).map fun r => (object r.1, r.2)
      else if b = octet 'n' then
        (stripWord? (word "ull") rest).map fun r => (null, r)
      else if b = octet 't' then
        (stripWord? (word "rue") rest).map fun r => (bool true, r)
      else if b = octet 'f' then
        (stripWord? (word "alse") rest).map fun r => (bool false, r)
      else
        (Literal.read (b :: rest)).map fun r => (number r.1, r.2)

/-- The elements of an array after its opening bracket. -/
def readElements : (fuel : Nat) → Bytes → Option (List Text × Bytes)
  | 0, _ => none
  | fuel + 1, bs =>
    match skipSpace bs with
    | [] => none
    -- A bracket may close right away, but not after a comma.
    | b :: rest => if b = octet ']' then some ([], rest) else readElement fuel (b :: rest)

/-- An element of an array and those after it. -/
def readElement : (fuel : Nat) → Bytes → Option (List Text × Bytes)
  | 0, _ => none
  | fuel + 1, bs =>
    match read fuel bs with
    | none => none
    | some (t, rest) =>
      match skipSpace rest with
      | [] => none
      | b :: rest =>
        if b = octet ']' then some ([t], rest)
        else if b = octet ',' then
          (readElement fuel rest).map fun r => (t :: r.1, r.2)
        else none

/-- The members of an object after its opening brace. -/
def readMembers : (fuel : Nat) → Bytes → Option (List (List Symbol × Text) × Bytes)
  | 0, _ => none
  | fuel + 1, bs =>
    match skipSpace bs with
    | [] => none
    | b :: rest => if b = octet '\x7d' then some ([], rest) else readMember fuel (b :: rest)

/-- A member of an object and those after it. -/
def readMember : (fuel : Nat) → Bytes → Option (List (List Symbol × Text) × Bytes)
  | 0, _ => none
  | fuel + 1, bs =>
    match readKey bs with
    | none => none
    | some (k, rest) =>
      match read fuel rest with
      | none => none
      | some (t, rest) =>
        match skipSpace rest with
        | [] => none
        | b :: rest =>
          if b = octet '\x7d' then some ([(k, t)], rest)
          else if b = octet ',' then
            (readMember fuel rest).map fun r => ((k, t) :: r.1, r.2)
          else none

end

/-- The text that some octets hold, with white space around it and between its parts. A text
of `n` octets takes fewer than `3 * n + 3` steps. -/
def parse? (bs : Bytes) : Option Text :=
  match read (3 * bs.length + 3) bs with
  | none => none
  | some (t, rest) => if skipSpace rest = [] then some t else none

end Text

end VersionedStore.Json
