/-! Labels of any letters in the few characters that host names allow. -/
namespace RouteSync.Text.Punycode

/-- Letters first, then digits. -/
def digitChar (d : Nat) : Char := Char.ofNat (if d < 26 then 97 + d else 22 + d)

/-- Where the digits of a number at a place stop. -/
def threshold (place bias : Nat) : Nat := min 26 (max 1 (place - bias))

theorem threshold_pos (place bias : Nat) : 0 < threshold place bias := by
  unfold threshold; omega

/-- The digits of a number, the lowest first, from a place on. -/
def digits (bias place n : Nat) : List Char :=
  let t := threshold place bias
  if n < t then [digitChar n]
  else digitChar (t + (n - t) % (36 - t)) :: digits bias (place + 36) ((n - t) / (36 - t))
termination_by n
decreasing_by
  have := threshold_pos place bias
  have := Nat.div_le_self (n - threshold place bias) (36 - threshold place bias)
  omega

/-- How often a number can be divided before it is small, and what is left. -/
def scale (n count : Nat) : Nat × Nat :=
  if n ≤ 455 then (n, count) else scale (n / 35) (count + 1)
termination_by n
decreasing_by omega

/-- The bias after a number, by how many characters are written. -/
def adapted (n written : Nat) (first : Bool) : Nat :=
  let n := if first then n / 700 else n / 2
  let (left, count) := scale (n + n / written) 0
  36 * count + 36 * left / (left + 38)

/-- The label so far: its text, the number that is growing, the bias, and how many characters are
written. -/
structure Draft where
  text : List Char
  gap : Nat := 0
  bias : Nat := 72
  written : Nat

/-- One character of the label, in the round for the character `n`. -/
def Draft.see (basic n : Nat) (d : Draft) (c : Char) : Draft :=
  if c.toNat < n then { d with gap := d.gap + 1 }
  else if c.toNat = n then
    ⟨d.text ++ digits d.bias 36 d.gap, 0, adapted d.gap (d.written + 1) (d.written = basic),
      d.written + 1⟩
  else d

/-- One round for every character beyond the first 128, in their order; `next` is the least that
has not had its round. -/
def rounds (label : List Char) (basic : Nat) : List Nat → Nat → Draft → Draft
  | [], _, d => d
  | n :: ns, next, d =>
    let d := { d with gap := d.gap + (n - next) * (d.written + 1) }
    let d := label.foldl (Draft.see basic n) d
    rounds label basic ns (n + 1) { d with gap := d.gap + 1 }

def encode (label : List Char) : List Char :=
  let basic := label.filter (·.toNat < 128)
  let others := ((label.filter (128 ≤ ·.toNat)).map Char.toNat).mergeSort (· ≤ ·)
  let start := if basic.isEmpty then [] else basic ++ ['-']
  (rounds label basic.length others.eraseReps 128 ⟨start, 0, 72, basic.length⟩).text

end RouteSync.Text.Punycode
