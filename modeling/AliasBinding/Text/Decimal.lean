/-!
# Shortest decimals

The decimal text of a binary floating-point number.  A finite nonzero double is `m · 2 ^ q`
up to its sign, and the reals that round to it form an interval, whose ends belong to it
exactly when `m` is even.  The text has the fewest significant digits of any decimal in that
interval; among those it is nearest to the number, and of two equally near ones the larger.
It is positional throughout: there is never an exponent, and a whole number has no point.
-/

namespace AliasBinding.Text

/-- A positive binary number `mantissa · 2 ^ (up - down)`, of which one of `up` and `down` is
zero, in a format where the next smaller number may be only half as far away as the next
larger one. -/
structure Binary where
  /-- The mantissa. -/
  mantissa : Nat
  /-- The exponent of a scale above one. -/
  up : Nat
  /-- The exponent of a scale below one. -/
  down : Nat
  /-- Whether the gap below is half the gap above. -/
  narrowBelow : Bool

namespace Binary

/-- The numerator of the number over `denominator`. -/
def numerator (b : Binary) : Nat := 4 * b.mantissa * Nat.pow 2 b.up

/-- A denominator that also serves the ends of the interval. -/
def denominator (b : Binary) : Nat := 4 * Nat.pow 2 b.down

/-- The numerator of the lower end of the interval of reals that round to the number. -/
def lower (b : Binary) : Nat :=
  (4 * b.mantissa - if b.narrowBelow then 1 else 2) * Nat.pow 2 b.up

/-- The numerator of the upper end of the interval. -/
def upper (b : Binary) : Nat := (4 * b.mantissa + 2) * Nat.pow 2 b.up

end Binary

/-- The decimal `digits · 10 ^ exponent`. -/
structure Decimal where
  /-- The digits, as a number. -/
  digits : Nat
  /-- The power of ten. -/
  exponent : Int

namespace Decimal

/-- The numerator of `d` over `denominator`, scaled by `10 ^ places`, for `places` large enough
to make it whole. -/
def scaled (d : Decimal) (denominator places : Nat) : Nat :=
  d.digits * Nat.pow 10 (d.exponent + places).toNat * denominator

/-- Whether `d` lies in the interval of reals that round to `b`. -/
def roundsTo (d : Decimal) (b : Binary) : Bool :=
  let places := (-d.exponent).toNat
  let x := d.scaled b.denominator places
  let low := b.lower * Nat.pow 10 places
  let high := b.upper * Nat.pow 10 places
  if b.mantissa % 2 = 0 then low ≤ x && x ≤ high else low < x && x < high

/-- The power of ten just above the number: the least `p` with `b < 10 ^ p`. -/
def magnitude (b : Binary) : Int :=
  if b.denominator ≤ b.numerator then (toString (b.numerator / b.denominator)).length
  else
    match (List.range 400).find? fun j => b.denominator ≤ b.numerator * Nat.pow 10 (j + 1) with
    | some j => -j
    | none => -400

/-- Of the decimals in steps of `10 ^ exponent`, the nearest to `b` that rounds to it. -/
def nearest? (b : Binary) (exponent : Int) : Option Decimal :=
  let places := (-exponent).toNat
  let step := Nat.pow 10 exponent.toNat * b.denominator
  let x := b.numerator * Nat.pow 10 places
  let below : Decimal := ⟨x / step, exponent⟩
  let above : Decimal := ⟨x / step + 1, exponent⟩
  match below.roundsTo b, above.roundsTo b with
  | true, true => if 2 * (x % step) < step then some below else some above
  | true, false => some below
  | false, true => some above
  | false, false => none

/-- The shortest decimal that rounds to `b`, and of several the nearest one. -/
def shortest (b : Binary) : Decimal :=
  let p := magnitude b
  match (List.range 17).findSome? fun (k : Nat) => nearest? b (p - 1 - k) with
  | some d => d
  | none => ⟨0, 0⟩

/-- The characters of a positional decimal with whole part `whole` and `places` digits `n`
after the point, without the zeros at its end. -/
private def pointed (whole n places : Nat) : List Char :=
  let digits := Nat.toDigits 10 n
  let fraction := List.replicate (places - digits.length) '0' ++ digits
  match (fraction.reverse.dropWhile (· == '0')).reverse with
  | [] => Nat.toDigits 10 whole
  | kept => Nat.toDigits 10 whole ++ '.' :: kept

/-- The positional spelling of `d`. -/
def spell (d : Decimal) : List Char :=
  if 0 ≤ d.exponent then Nat.toDigits 10 (d.digits * Nat.pow 10 d.exponent.toNat)
  else
    let places := (-d.exponent).toNat
    pointed (d.digits / Nat.pow 10 places) (d.digits % Nat.pow 10 places) places

private theorem mem_of_mem_stripped {cs : List Char} {c : Char}
    (h : c ∈ (cs.reverse.dropWhile (· == '0')).reverse) :
  c ∈ cs
  := by
  have hmem := (List.dropWhile_sublist _).subset (List.mem_reverse.mp h)
  apply List.mem_reverse.mp hmem

private theorem mem_pointed {whole n places : Nat} {c : Char}
    (h : c ∈ pointed whole n places) :
  c.isDigit = true ∨ c = '.'
  := by
  have hdigit {m : Nat} (hc : c ∈ Nat.toDigits 10 m) : c.isDigit = true :=
    Nat.isDigit_of_mem_toDigits (by decide) (by decide) hc
  unfold pointed at h
  dsimp only at h
  generalize hkept : (List.dropWhile _ _).reverse = kept at h
  cases kept with
  | nil => exact .inl (hdigit h)
  | cons x kept =>
    rw [List.mem_append, List.mem_cons] at h
    rcases h with h | rfl | h
    · exact .inl (hdigit h)
    · exact .inr rfl
    · left
      rw [← hkept] at h
      rcases List.mem_append.mp (mem_of_mem_stripped h) with hzero | hdigits
      · rw [(List.mem_replicate.mp hzero).2]
        rfl
      · apply hdigit hdigits

/-- The spelling has digits and at most a point. -/
theorem mem_spell {d : Decimal} {c : Char} (h : c ∈ d.spell) :
  c.isDigit = true ∨ c = '.'
  := by
  unfold spell at h
  split at h
  · exact .inl (Nat.isDigit_of_mem_toDigits (by decide) (by decide) h)
  · apply mem_pointed h

end Decimal

/-- Whether the bits of a double stand for a finite number. -/
def finiteBits (bits : Nat) : Bool := bits / Nat.pow 2 52 % Nat.pow 2 11 != 2047

/-- The magnitude of the finite double with the given bits, none for zero. -/
def binaryOfBits (bits : Nat) : Option Binary :=
  let fraction := bits % Nat.pow 2 52
  let exponent := bits / Nat.pow 2 52 % Nat.pow 2 11
  if exponent = 0 then
    if fraction = 0 then none else some ⟨fraction, 0, 1074, false⟩
  else
    let narrowBelow := fraction = 0 && exponent != 1
    some ⟨Nat.pow 2 52 + fraction, exponent - 1075, 1075 - exponent, narrowBelow⟩

/-- Whether `x` is neither infinite nor not a number. -/
def isFinite (x : Float) : Bool := finiteBits x.toBits.toNat

/-- The decimal text of the double with the given bits, which stand for a finite number. -/
def decimalOfBits (bits : Nat) : List Char :=
  let text :=
    match binaryOfBits bits with
    | some b => (Decimal.shortest b).spell
    | none => ['0']
  if bits / Nat.pow 2 63 % 2 = 1 then '-' :: text else text

/-- The text has digits, and at most a point and a sign. -/
theorem mem_decimalOfBits {bits : Nat} {c : Char} (h : c ∈ decimalOfBits bits) :
  c.isDigit = true ∨ c = '.' ∨ c = '-'
  := by
  have htext : c ∈ (match binaryOfBits bits with
      | some b => (Decimal.shortest b).spell
      | none => ['0']) → c.isDigit = true ∨ c = '.' := by
    cases binaryOfBits bits with
    | some b => apply Decimal.mem_spell
    | none =>
      intro hc
      rw [List.mem_singleton.mp hc]
      exact .inl rfl
  unfold decimalOfBits at h
  dsimp only at h
  split at h
  · rcases List.mem_cons.mp h with rfl | h
    · exact .inr (.inr rfl)
    · exact (htext h).imp_right .inl
  · exact (htext h).imp_right .inl

/-- The decimal text of a finite `x`. -/
def decimal (x : Float) : String := String.ofList (decimalOfBits x.toBits.toNat)

end AliasBinding.Text
