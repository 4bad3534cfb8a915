import ModelReach.Text.CombiningClass
import ModelReach.Text.Composition
import ModelReach.Text.Decomposition

/-! The normal form NFKC of Unicode 14: decompose, put marks in the order of their combining
classes, compose. -/
namespace ModelReach.Text
set_option autoImplicit false

/-! ## Canonical order -/

/-- Insert a mark before the marks of higher class that end a reversed text. -/
def insertMark (c : Nat) : List Nat → List Nat
  | [] => [c]
  | d :: rest =>
    if combiningClass c < combiningClass d then d :: insertMark c rest else c :: d :: rest

/-- Put a code point behind a reversed text: a starter at its end, a mark at its place. -/
def place (done : List Nat) (c : Nat) : List Nat :=
  if combiningClass c = 0 then c :: done else insertMark c done

/-- Sort each run of marks by class, keeping the order of equals; the result is reversed. -/
def orderMarks (t : List Nat) : List Nat := t.foldl place []

/-! ## Composition -/

/-- A composition under way: what is finished, the last starter, and the marks after it. -/
structure Composing where
  finished : List Nat
  starter : Option Nat
  marks : List Nat

def Composing.close (s : Composing) : List Nat :=
  s.finished ++ s.starter.toList ++ s.marks

/-- Read one more code point. It joins the starter if the two have a composite and no mark between
blocks it: a starter or a mark of the same or a higher class. -/
def Composing.read (s : Composing) (c : Nat) : Composing :=
  let class' := combiningClass c
  let lastClass := (s.marks.getLast?.map combiningClass).getD 0
  let blocked := !s.marks.isEmpty && (lastClass == 0 || class' ≤ lastClass)
  match s.starter with
  | none =>
    if class' = 0 then { s with starter := some c } else { s with finished := s.finished ++ [c] }
  | some a =>
    match if blocked then none else composite? a c with
    | some b => { s with starter := some b }
    | none =>
      if class' = 0 then ⟨s.close, some c, []⟩ else { s with marks := s.marks ++ [c] }

def compose (t : List Nat) : List Nat :=
  (t.foldl Composing.read ⟨[], none, []⟩).close

def nfkc (t : List Nat) : List Nat :=
  compose (orderMarks (t.flatMap decompose)).reverse

end ModelReach.Text
