import ModelReach.Text.Basic
import ModelReach.Text.Printable

/-! Texts and byte strings as quoted literals. -/
namespace ModelReach.Text
set_option autoImplicit false

/-! ## Escapes -/

def hexDigits (width n : Nat) : List Char :=
  let ds := Nat.toDigits 16 n
  List.replicate (width - ds.length) '0' ++ ds

/-- The escape of a code point: a letter after the backslash if there is one, else its number. -/
def escaped (c : Nat) : List Char :=
  if c = 9 then ['\\', 't']
  else if c = 10 then ['\\', 'n']
  else if c = 13 then ['\\', 'r']
  else if c = 92 then ['\\', '\\']
  else if c < 0x100 then '\\' :: 'x' :: hexDigits 2 c
  else if c < 0x10000 then '\\' :: 'u' :: hexDigits 4 c
  else '\\' :: 'U' :: hexDigits 8 c

/-- A code point as itself, or as its escape if it is a backslash or not printable. -/
def escapedOrPlain (c : Nat) : List Char :=
  if c = 92 || !isPrintable c then escaped c else [charOf c]

/-! ## Quotes -/

/-- The quote around a literal: the single one, unless the literal holds single quotes and no double
ones. -/
def quoteFor (codes : List Nat) : Char :=
  if codes.contains '\''.toNat && !codes.contains '"'.toNat then '"' else '\''

def quoted (t : Text) : String :=
  let quote := quoteFor t
  let image (c : Nat) : List Char := if c = quote.toNat then ['\\', quote] else escapedOrPlain c
  String.ofList (quote :: t.flatMap image ++ [quote])

def quotedBytes (bytes : List Nat) : String :=
  let quote := quoteFor bytes
  let image (c : Nat) : List Char :=
    if c = quote.toNat then ['\\', quote]
    else if c = 92 || c < 32 || 127 ≤ c then escaped c
    else [charOf c]
  String.ofList ('b' :: quote :: bytes.flatMap image ++ [quote])

end ModelReach.Text
