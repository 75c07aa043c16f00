import SqlWorkload.Number.Binary64
import SqlWorkload.Text.Digits
/-!
# Two decimals

Binary64 numbers with two digits after the point, rounded from the exact value; a tie goes to the
even digit. The sign of a number that rounds to zero stays.
-/

namespace SqlWorkload.Binary64

/-- The magnitude in hundredths, rounded. -/
def hundredths (p : Binary64) : Nat := roundDiv (p.num * 100) p.den

def fixedText (p : Binary64) : String :=
  if p.isNaN then "NaN"
  else
    let magnitude :=
      if p.isFinite then
        Nat.toDigits 10 (p.hundredths / 100) ++ '.' :: Text.zeroPad 2 (p.hundredths % 100)
      else "inf".toList
    String.ofList (if p.negative then '-' :: magnitude else magnitude)

example : (ofRatio 1 8).fixedText = "0.12" := by decide +kernel

example : (ofRatio 3 8).fixedText = "0.38" := by decide +kernel

example : (ofRatio 1 1000).neg.fixedText = "-0.00" := by decide +kernel

end SqlWorkload.Binary64
