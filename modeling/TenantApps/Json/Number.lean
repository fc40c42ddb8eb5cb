import TenantApps.Decimal.Shortest
import TenantApps.Json.Fault

/-!
# `TenantApps.Json.Number` — number literals

`scan` splits a literal into sign, integer digits, fraction and exponent; `Literal.value` evaluates
it. Integers in `[-2 ^ 63, 2 ^ 64)` are exact, every other literal, including `-0`, is a double.
Digits are accumulated while the significand fits into 64 bits; further digits only move the point.

## Contents
- `Literal` and `scan`; `length_scan` bounds the rest of the input.
- `Number`, `Literal.value` and `Number.describe`.
-/

namespace TenantApps.Json

/-- The value of a literal. -/
inductive Number
  /-- An integer in `[0, 2 ^ 64)`. -/
  | natural (n : Nat)
  /-- The negation of `n`, with `n` in `[1, 2 ^ 63]`. -/
  | negative (n : Nat)
  /-- Any other number, rounded to a double. -/
  | float (minus : Bool) (value : Binary64)
  deriving DecidableEq, Repr

namespace Number

/-- Format of floats in errors: always a fraction, an exponent outside `1e-5` to `1e16`. -/
def layout : Decimal.Layout := ⟨-5, 15, "+", ".0"⟩

/-- A float as text. -/
def floatText (minus : Bool) (x : Binary64) : String :=
  let body :=
    if x.mantissa = 0 then "0.0"
    else
      let (d, k) := Decimal.shortest x
      layout.render d k
  if minus then "-" ++ body else body

/-- The wording in errors. -/
def describe : Number → String
  | natural n => "integer `" ++ toString n ++ "`"
  | negative n => "integer `-" ++ toString n ++ "`"
  | float minus x => "floating point `" ++ floatText minus x ++ "`"

/-- A literal, split into its parts. -/
structure Literal where
  minus : Bool
  /-- Integer digits. -/
  whole : List Nat
  /-- Fraction digits. -/
  fraction : List Nat
  /-- Exponent digits, with the sign bit. -/
  exponent : Option (Bool × List Nat)
  deriving DecidableEq, Repr

/-! ## Cutting off a literal -/

/-- ASCII digits. -/
def isDigit (b : UInt8) : Bool := 0x30 ≤ b && b ≤ 0x39

/-- The longest digit prefix and the rest. -/
def digits (input : List UInt8) : List Nat × List UInt8 :=
  ((input.takeWhile isDigit).map fun b => b.toNat - 0x30, input.dropWhile isDigit)

/-- The fault of a literal cut off before `rest`. -/
def broken (rest : List UInt8) : Fault :=
  ⟨if rest = [] then .endInValue else .invalidNumber, .invalidNumber⟩

/-- Exponent digits, after the sign. -/
def scanPower (minus : Bool) (input : List UInt8) :
    Except Fault ((Bool × List Nat) × List UInt8) :=
  match digits input with
  | ([], rest) => .error (broken rest)
  | (ds, rest) => .ok ((minus, ds), rest)

/-- Sign and digits of an exponent, after its letter. -/
def scanExponent (input : List UInt8) : Except Fault ((Bool × List Nat) × List UInt8) :=
  match input with
  | 0x2b :: rest => scanPower false rest
  | 0x2d :: rest => scanPower true rest
  | rest => scanPower false rest

/-- An optional exponent. -/
def scanTail (minus : Bool) (whole fraction : List Nat) (input : List UInt8) :
    Except Fault (Literal × List UInt8) :=
  match input with
  | b :: rest =>
    if b = 0x65 ∨ b = 0x45 then
      (scanExponent rest).map fun (e, rest) => (⟨minus, whole, fraction, some e⟩, rest)
    else .ok (⟨minus, whole, fraction, none⟩, input)
  | [] => .ok (⟨minus, whole, fraction, none⟩, [])

/-- Fraction digits, after the point. -/
def scanFraction (minus : Bool) (whole : List Nat) (input : List UInt8) :
    Except Fault (Literal × List UInt8) :=
  match digits input with
  | ([], rest) => .error (broken rest)
  | (fraction, rest) => scanTail minus whole fraction rest

/-- Integer part and what may follow it, after the sign. -/
def scanUnsigned (minus : Bool) (input : List UInt8) : Except Fault (Literal × List UInt8) :=
  match digits input with
  | ([], rest) => .error (broken rest)
  | (0 :: _ :: _, _) => .error (.same .invalidNumber)
  | (whole, 0x2e :: rest) => scanFraction minus whole rest
  | (whole, rest) => scanTail minus whole [] rest

/-- A literal; the input starts with `-` or a digit. -/
def scan (input : List UInt8) : Except Fault (Literal × List UInt8) :=
  match input with
  | 0x2d :: rest => scanUnsigned true rest
  | rest => scanUnsigned false rest

/-! ## What is left is shorter -/

theorem length_digits {input rest : List UInt8} {ds : List Nat} (h : digits input = (ds, rest)) :
    rest.length ≤ input.length := by
  rw [digits, Prod.mk.injEq] at h
  rw [← h.2]
  exact (List.dropWhile_sublist _).length_le

theorem length_digits_lt {input rest : List UInt8} {ds : List Nat}
    (h : digits input = (ds, rest)) (hds : ds ≠ []) : rest.length < input.length := by
  rw [digits, Prod.mk.injEq] at h
  have hsum := congrArg List.length (List.takeWhile_append_dropWhile (p := isDigit) (l := input))
  have hpos : 0 < (input.takeWhile isDigit).length := by
    refine List.length_pos_iff.2 fun h0 => hds ?_
    rw [← h.1, h0]
    rfl
  rw [List.length_append, h.2] at hsum
  omega

theorem length_scanPower {minus : Bool} {input rest : List UInt8} {e : Bool × List Nat}
    (h : scanPower minus input = .ok (e, rest)) : rest.length ≤ input.length := by
  unfold scanPower at h
  split at h
  · cases h
  · next hd =>
    simp only [Except.ok.injEq, Prod.mk.injEq] at h
    rw [← h.2]
    exact length_digits hd

theorem length_scanExponent {input rest : List UInt8} {e : Bool × List Nat}
    (h : scanExponent input = .ok (e, rest)) : rest.length ≤ input.length := by
  unfold scanExponent at h
  split at h
  · exact Nat.le_succ_of_le (length_scanPower h)
  · exact Nat.le_succ_of_le (length_scanPower h)
  · exact length_scanPower h

theorem length_scanTail {minus : Bool} {whole fraction : List Nat} {input rest : List UInt8}
    {l : Literal} (h : scanTail minus whole fraction input = .ok (l, rest)) :
    rest.length ≤ input.length := by
  unfold scanTail at h
  split at h
  · next b r =>
    split at h
    · cases hs : scanExponent r with
      | error f => rw [hs] at h; cases h
      | ok p =>
        rw [hs] at h
        simp only [Except.map, Except.ok.injEq, Prod.mk.injEq] at h
        rw [← h.2]
        exact Nat.le_succ_of_le (length_scanExponent hs)
    · simp only [Except.ok.injEq, Prod.mk.injEq] at h
      exact Nat.le_of_eq (congrArg List.length h.2.symm)
  · simp only [Except.ok.injEq, Prod.mk.injEq] at h
    exact Nat.le_of_eq (congrArg List.length h.2.symm)

theorem length_scanFraction {minus : Bool} {whole : List Nat} {input rest : List UInt8}
    {l : Literal} (h : scanFraction minus whole input = .ok (l, rest)) :
    rest.length ≤ input.length := by
  unfold scanFraction at h
  split at h
  · cases h
  · next hd => exact Nat.le_trans (length_scanTail h) (length_digits hd)

theorem length_scanUnsigned {minus : Bool} {input rest : List UInt8} {l : Literal}
    (h : scanUnsigned minus input = .ok (l, rest)) : rest.length < input.length := by
  unfold scanUnsigned at h
  split at h
  · cases h
  · cases h
  · next hne _ hd =>
    have := length_scanFraction h
    have := length_digits hd
    simp only [List.length_cons] at this
    omega
  · next hne _ _ hd => exact Nat.lt_of_le_of_lt (length_scanTail h) (length_digits_lt hd hne)

theorem length_scan {input rest : List UInt8} {l : Literal} (h : scan input = .ok (l, rest)) :
    rest.length < input.length := by
  unfold scan at h
  split at h
  · exact Nat.lt_succ_of_lt (length_scanUnsigned h)
  · exact length_scanUnsigned h

/-! ## Its value -/

/-- The first number that does not fit into 64 bits. -/
def wordLimit : Nat := 0x10000000000000000

/-- Accumulates digits up to `wordLimit`; the second part are the digits not consumed. -/
def absorb (n : Nat) : List Nat → Nat × List Nat
  | [] => (n, [])
  | d :: ds => if wordLimit ≤ 10 * n + d then (n, d :: ds) else absorb (10 * n + d) ds

/-- Exponents from here on are not evaluated: the value is zero or out of range. -/
def exponentLimit : Nat := 0x80000000

/-- The double of `n * 10 ^ e`. -/
def float? (minus : Bool) (n : Nat) (e : Int) : Except Reason Number :=
  match Binary64.scale n e with
  | some x => .ok (.float minus x)
  | none => .error .numberOutOfRange

/-- The value of a literal; a magnitude above all doubles is an error. -/
def Literal.value (l : Literal) : Except Reason Number :=
  let (n, left) := absorb 0 l.whole
  match l.fraction, l.exponent, left with
  | [], none, [] =>
    if !l.minus then .ok (.natural n)
    else if n = 0 ∨ wordLimit < 2 * n then float? true n 0
    else .ok (.negative n)
  | _, _, _ =>
    let (n, spare) := absorb n l.fraction
    let point : Int := (left.length : Int) - ((l.fraction.length : Int) - spare.length)
    match l.exponent with
    | none => float? l.minus n point
    | some (down, ds) =>
      let e : Nat := ds.foldl (fun acc d => 10 * acc + d) 0
      if exponentLimit ≤ e then
        if n ≠ 0 ∧ !down then .error .numberOutOfRange else .ok (.float l.minus .zero)
      else float? l.minus n (if down then point - (e : Int) else point + (e : Int))

end Number

end TenantApps.Json
