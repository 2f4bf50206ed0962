import Timephrase.Span
import Timephrase.Text.Blank
import Timephrase.Text.Utf8

/-!
# Residual text

What is left of a text when spans are taken out of it: the bytes that no span covers, read as
characters again, with every run of blanks made one space and none at the ends.

## Main definitions

* `Residual.kept`: the bytes that no span covers
* `Residual.residual`: the residual text
-/

namespace Timephrase.Residual

/-- The bytes that no span covers, the first of them at position `i`. -/
def kept (spans : List Span) : Nat → List UInt8 → List UInt8
  | _, [] => []
  | i, b :: bs =>
    if spans.any fun s => decide (s.Covers i) then kept spans (i + 1) bs
    else b :: kept spans (i + 1) bs

/-- The text without the bytes that spans cover, its blanks put in order. -/
def residual (text : String) (spans : List Span) : String :=
  String.ofList (Blank.trimChars (Blank.collapse
    (Utf8.decode (kept spans 0 (Utf8.encode text.toList)))))

@[simp] theorem kept_nil (spans : List Span) (i : Nat) : kept spans i [] = [] := rfl

/-- Without spans every byte is kept. -/
@[simp] theorem kept_no_spans (i : Nat) (bs : List UInt8) : kept [] i bs = bs := by
  induction bs generalizing i with
  | nil => rfl
  | cons b bs ih => simp [kept, ih]

end Timephrase.Residual
