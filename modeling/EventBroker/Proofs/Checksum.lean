/-
The checksum of a record file is the CRC-32 of IEEE 802.3, and no short damage escapes it.

A message is a polynomial over the field of two elements whose coefficients are its bits, those of a byte from the
lowest to the highest. The standard defines the checksum by a division of polynomials: 32 zeros are put behind the
message, its first 32 bits are inverted, and what remains modulo the generator is inverted again (`IsCrc32`). The
register divides bit by bit.

- `residue_shift`: one step of the register multiplies by X, modulo the generator.
- `residue_foldl`: so the register holds the remainder of what it was fed.
- `isCrc32_iff`: the checksum of the program is the one of the standard.
- `crc32_burst`: messages of one length that differ within four bytes in a row, and nowhere else, have different
  checksums, however long they are.
-/
import Mathlib.Algebra.CharP.Two
import Mathlib.Algebra.Field.ZMod
import Mathlib.Data.Nat.Bitwise
import Mathlib.RingTheory.AdjoinRoot
import EventBroker.Checksum

namespace EventBroker.Checksum

open Polynomial

/-! ## Bits and polynomials -/

/-- the polynomial that has these coefficients, the highest first -/
noncomputable def ofBits : List Bool → (ZMod 2)[X]
  | [] => 0
  | b :: bs => (if b then X ^ bs.length else 0) + ofBits bs

/-- the lowest `count` bits of a number, the lowest first -/
def bitsOf : (count : Nat) → Nat → List Bool
  | 0, _ => []
  | count + 1, n => (n % 2 == 1) :: bitsOf count (n / 2)

/-- the bits of a message, in the order in which they are sent -/
def bits (bs : List UInt8) : List Bool := bs.flatMap fun b => bitsOf 8 b.toNat

/-- the polynomial of IEEE 802.3 -/
noncomputable def generator : (ZMod 2)[X] :=
  X ^ 32 + X ^ 26 + X ^ 23 + X ^ 22 + X ^ 16 + X ^ 12 + X ^ 11 + X ^ 10 + X ^ 8 + X ^ 7 + X ^ 5 + X ^ 4 + X ^ 2 + X + 1

/-- the first 32 bits inverted -/
def invertFirst (bs : List Bool) : List Bool := (bs.take 32).map not ++ bs.drop 32

/-- The checksum as IEEE 802.3 defines it. Its bits, inverted, are the remainder of the message with 32 zeros behind it
and its first 32 bits inverted. -/
def IsCrc32 (bs : List UInt8) (c : UInt32) : Prop :=
  ofBits ((bitsOf 32 c.toNat).map not) = ofBits (invertFirst (bits bs ++ List.replicate 32 false)) %ₘ generator

theorem ofBits_append (as bs : List Bool) : ofBits (as ++ bs) = ofBits as * X ^ bs.length + ofBits bs := by
  induction as with
  | nil => simp [ofBits]
  | cons a as ih =>
    rw [List.cons_append, ofBits, ofBits, ih, List.length_append, pow_add]
    split <;> ring

theorem ofBits_replicate_false (n : Nat) : ofBits (List.replicate n false) = 0 := by
  induction n with
  | zero => rfl
  | succ n ih => simp [List.replicate_succ, ofBits, ih]

/-- the sum of polynomials is the exclusive or of their coefficients -/
theorem ofBits_zipWith_xor {as bs : List Bool} (h : as.length = bs.length) :
    ofBits (List.zipWith xor as bs) = ofBits as + ofBits bs := by
  induction as generalizing bs with
  | nil =>
    cases bs with
    | nil => simp [ofBits]
    | cons b bs => simp at h
  | cons a as ih =>
    cases bs with
    | nil => simp at h
    | cons b bs =>
      have hlength : as.length = bs.length := by simpa using h
      have hzip : (List.zipWith xor as bs).length = bs.length := by simp [hlength]
      have htwo : (X ^ bs.length + X ^ bs.length : (ZMod 2)[X]) = 0 := CharTwo.add_self_eq_zero _
      rw [List.zipWith_cons_cons, ofBits, ofBits, ofBits, ih hlength, hzip, hlength]
      cases a <;> cases b <;> simp only [Bool.xor_false, Bool.xor_true, Bool.not_false, Bool.not_true, if_true,
        Bool.false_eq_true, if_false]
      · ring
      · ring
      · ring
      · linear_combination -htwo

theorem degree_ofBits_lt (bs : List Bool) : (ofBits bs).degree < bs.length := by
  induction bs with
  | nil => simp [ofBits]
  | cons b bs ih =>
    have hlength : ((bs.length : Nat) : WithBot Nat) < ((b :: bs).length : Nat) := by
      exact_mod_cast Nat.lt_succ_self bs.length
    refine (degree_add_le _ _).trans_lt (max_lt ?_ (ih.trans hlength))
    split
    · rw [degree_X_pow]
      exact hlength
    · rw [degree_zero]
      exact WithBot.bot_lt_coe _

/-- a polynomial tells its coefficients -/
theorem ofBits_injective {as bs : List Bool} (hlength : as.length = bs.length) (h : ofBits as = ofBits bs) :
    as = bs := by
  induction as generalizing bs with
  | nil => exact (List.length_eq_zero_iff.1 hlength.symm).symm
  | cons a as ih =>
    cases bs with
    | nil => simp at hlength
    | cons b bs =>
      have hlength' : as.length = bs.length := by simpa using hlength
      have hcoeff : ∀ (c : Bool) (cs : List Bool), (ofBits (c :: cs)).coeff cs.length = if c then 1 else 0 := by
        intro c cs
        rw [ofBits, coeff_add, coeff_eq_zero_of_degree_lt (degree_ofBits_lt cs), add_zero]
        split <;> simp
      have hhead : a = b := by
        have hsame : (if a then (1 : ZMod 2) else 0) = if b then 1 else 0 := by
          rw [← hcoeff a as, ← hcoeff b bs, h, hlength']
        revert hsame
        cases a <;> cases b <;> decide
      subst hhead
      rw [ofBits, ofBits, hlength'] at h
      rw [ih hlength' (add_left_cancel h)]

theorem bitsOf_length (count n : Nat) : (bitsOf count n).length = count := by
  induction count generalizing n with
  | zero => rfl
  | succ count ih => rw [bitsOf, List.length_cons, ih]

theorem bitsOf_xor (count m n : Nat) : bitsOf count (m ^^^ n) = List.zipWith xor (bitsOf count m) (bitsOf count n) := by
  induction count generalizing m n with
  | zero => rfl
  | succ count ih =>
    have hlow : ((m ^^^ n) % 2 == 1) = ((m % 2 == 1) ^^ (n % 2 == 1)) := by
      have hm := Nat.mod_two_eq_zero_or_one m
      have hn := Nat.mod_two_eq_zero_or_one n
      rw [Nat.xor_mod_two_eq]
      rcases hm with hm | hm <;> rcases hn with hn | hn <;> simp [hm, hn, Nat.add_mod]
    rw [bitsOf, bitsOf, bitsOf, List.zipWith_cons_cons, hlow, ← ih, Nat.xor_div_two]

theorem bitsOf_add (count more n : Nat) :
    bitsOf (count + more) n = bitsOf count n ++ bitsOf more (n / 2 ^ count) := by
  induction count generalizing n with
  | zero => simp [bitsOf]
  | succ count ih =>
    rw [Nat.succ_add_eq_add_succ, Nat.add_succ, bitsOf, bitsOf, ih, Nat.div_div_eq_div_mul, ← Nat.pow_succ',
      List.cons_append]

theorem bitsOf_zero (count : Nat) : bitsOf count 0 = List.replicate count false := by
  induction count with
  | zero => rfl
  | succ count ih => rw [bitsOf, Nat.zero_div, ih]; rfl

/-- the bits above the highest one are clear -/
theorem bitsOf_of_lt {count n : Nat} (h : n < 2 ^ count) (more : Nat) :
    bitsOf (count + more) n = bitsOf count n ++ List.replicate more false := by
  rw [bitsOf_add, Nat.div_eq_of_lt h, bitsOf_zero]

theorem bitsOf_injective {count m n : Nat} (hm : m < 2 ^ count) (hn : n < 2 ^ count)
    (h : bitsOf count m = bitsOf count n) : m = n := by
  induction count generalizing m n with
  | zero => omega
  | succ count ih =>
    rw [bitsOf, bitsOf, List.cons.injEq] at h
    have hhalf : m / 2 = n / 2 := ih (by omega) (by omega) h.2
    have hlow : m % 2 = 1 ↔ n % 2 = 1 := by simpa using congrArg (· = true) h.1
    omega

theorem bits_length (bs : List UInt8) : (bits bs).length = 8 * bs.length := by
  induction bs with
  | nil => rfl
  | cons b bs ih =>
    have hcons : bits (b :: bs) = bitsOf 8 b.toNat ++ bits bs := rfl
    rw [hcons, List.length_append, bitsOf_length, ih, List.length_cons]
    omega

theorem bits_append (as bs : List UInt8) : bits (as ++ bs) = bits as ++ bits bs := List.flatMap_append

theorem bits_injective {as bs : List UInt8} (hlength : as.length = bs.length) (h : bits as = bits bs) : as = bs := by
  induction as generalizing bs with
  | nil => exact (List.length_eq_zero_iff.1 hlength.symm).symm
  | cons a as ih =>
    cases bs with
    | nil => simp at hlength
    | cons b bs =>
      have hparts : bitsOf 8 a.toNat ++ bits as = bitsOf 8 b.toNat ++ bits bs := h
      obtain ⟨hhead, htail⟩ := List.append_inj hparts (by rw [bitsOf_length, bitsOf_length])
      have hbyte : a = b := UInt8.toNat_inj.1 (bitsOf_injective a.toNat_lt b.toNat_lt hhead)
      rw [hbyte, ih (by simpa using hlength) htail]

/-! ## The register -/

/-- the polynomial that the register stands for -/
noncomputable def residue (r : UInt32) : (ZMod 2)[X] := ofBits (bitsOf 32 r.toNat)

theorem residue_xor (r s : UInt32) : residue (r ^^^ s) = residue r + residue s := by
  rw [residue, UInt32.toNat_xor, bitsOf_xor, ofBits_zipWith_xor (by rw [bitsOf_length, bitsOf_length])]
  rfl

theorem degree_residue_lt (r : UInt32) : (residue r).degree < 32 := by
  have h := degree_ofBits_lt (bitsOf 32 r.toNat)
  rw [bitsOf_length] at h
  exact h

theorem residue_injective {r s : UInt32} (h : residue r = residue s) : r = s := by
  have hbits := ofBits_injective (by rw [bitsOf_length, bitsOf_length]) h
  exact UInt32.toNat_inj.1 (bitsOf_injective r.toNat_lt s.toNat_lt hbits)

/-- the generator without its highest power -/
theorem generator_eq : generator = X ^ 32 + residue polynomial := by
  have hbits : bitsOf 32 polynomial.toNat = [true, true, true, false, true, true, false, true, true, false, true, true,
      true, false, false, false, true, false, false, false, false, false, true, true, false, false, true, false, false,
      false, false, false].reverse := by decide
  rw [residue, hbits]
  simp [ofBits, generator]
  ring

theorem generator_monic : generator.Monic := by
  rw [generator_eq]
  exact monic_X_pow_add (degree_residue_lt polynomial)

theorem degree_generator : generator.degree = 32 := by
  rw [generator_eq, add_comm, degree_add_eq_right_of_degree_lt]
  · exact degree_X_pow 32
  · rw [degree_X_pow]
    exact degree_residue_lt polynomial

/-- the generator has a constant term, so X divides nothing out of it -/
theorem generator_coprime_X_pow (k : Nat) : IsCoprime generator (X ^ k) := by
  refine IsCoprime.pow_right ?_
  refine ⟨1, X ^ 31 + X ^ 25 + X ^ 22 + X ^ 21 + X ^ 15 + X ^ 11 + X ^ 10 + X ^ 9 + X ^ 7 + X ^ 6 + X ^ 4 + X ^ 3 +
    X + 1, ?_⟩
  have htwo : (2 : (ZMod 2)[X]) = 0 := CharTwo.two_eq_zero
  rw [generator]
  linear_combination (X ^ 32 + X ^ 26 + X ^ 23 + X ^ 22 + X ^ 16 + X ^ 12 + X ^ 11 + X ^ 10 + X ^ 8 + X ^ 7 + X ^ 5 +
    X ^ 4 + X ^ 2 + X) * htwo

/-- **One step of the register multiplies by X**, and takes the generator away where a bit leaves the register. -/
theorem residue_shift (r : UInt32) :
    residue (shift r) = X * residue r + if r &&& 1 = 1 then generator else 0 := by
  have hlow : r &&& 1 = 1 ↔ r.toNat % 2 = 1 := by
    rw [← UInt32.toNat_inj, UInt32.toNat_and]
    exact Nat.and_one_is_mod r.toNat ▸ Iff.rfl
  have hhalf : (r >>> 1).toNat = r.toNat / 2 := by simp [Nat.shiftRight_eq_div_pow]
  have hsmall : r.toNat / 2 < 2 ^ 31 := by
    have := r.toNat_lt
    omega
  have hmoved : residue (r >>> 1) = ofBits (bitsOf 31 (r.toNat / 2)) * X := by
    have hbits : bitsOf 32 (r.toNat / 2) = bitsOf 31 (r.toNat / 2) ++ [false] := bitsOf_of_lt hsmall 1
    rw [residue, hhalf, hbits, ofBits_append]
    simp [ofBits]
  have hwhole : residue r = (if r &&& 1 = 1 then X ^ 31 else 0) + ofBits (bitsOf 31 (r.toNat / 2)) := by
    rw [residue, bitsOf, ofBits, bitsOf_length]
    simp only [beq_iff_eq, hlow]
  unfold shift
  split
  case isTrue h =>
    have htwo : (X ^ 32 + X ^ 32 : (ZMod 2)[X]) = 0 := CharTwo.add_self_eq_zero _
    rw [residue_xor, hmoved, hwhole, if_pos h, generator_eq]
    linear_combination -htwo
  case isFalse h =>
    rw [hmoved, hwhole, if_neg h]
    ring

/-- modulo the generator -/
noncomputable abbrev modulo : (ZMod 2)[X] →+* AdjoinRoot generator := AdjoinRoot.mk generator

theorem modulo_shift (r : UInt32) : modulo (residue (shift r)) = modulo X * modulo (residue r) := by
  rw [residue_shift, map_add, map_mul]
  split
  · rw [AdjoinRoot.mk_self, add_zero]
  · rw [map_zero, add_zero]

theorem residue_byte (b : UInt8) : residue b.toUInt32 = ofBits (bitsOf 8 b.toNat) * X ^ 24 := by
  have hbits : bitsOf 32 b.toNat = bitsOf 8 b.toNat ++ List.replicate 24 false := bitsOf_of_lt b.toNat_lt 24
  rw [residue, UInt8.toNat_toUInt32, hbits, ofBits_append, ofBits_replicate_false, List.length_replicate, add_zero]

/-- the register takes a byte in -/
theorem modulo_feed (r : UInt32) (b : UInt8) :
    modulo (residue (feed r b)) = modulo (X ^ 8 * residue r + X ^ 32 * ofBits (bitsOf 8 b.toNat)) := by
  unfold feed
  simp only [modulo_shift, residue_xor, residue_byte, map_add, map_mul, map_pow]
  ring

/-- what the register holds after some bytes -/
theorem residue_foldl (r : UInt32) (bs : List UInt8) :
    modulo (residue (bs.foldl feed r)) = modulo (X ^ (8 * bs.length) * residue r + X ^ 32 * ofBits (bits bs)) := by
  induction bs generalizing r with
  | nil => simp [bits, ofBits]
  | cons b bs ih =>
    have hbits : bits (b :: bs) = bitsOf 8 b.toNat ++ bits bs := rfl
    have hpower : 8 * (b :: bs).length = 8 * bs.length + 8 := by
      rw [List.length_cons]
      omega
    have hfed := modulo_feed r b
    rw [List.foldl_cons, ih, hbits, ofBits_append, bits_length, hpower, pow_add]
    simp only [map_add, map_mul, map_pow] at hfed ⊢
    rw [hfed]
    ring

/-! ## The checksum -/

theorem ofBits_map_not (bs : List Bool) : ofBits (bs.map not) = ofBits bs + ofBits (List.replicate bs.length true) := by
  have hnot : bs.map not = List.zipWith xor bs (List.replicate bs.length true) := by
    induction bs with
    | nil => rfl
    | cons b bs ih => simp [List.replicate_succ, ih]
  rw [hnot, ofBits_zipWith_xor (by simp)]

theorem residue_ones : residue 0xFFFFFFFF = ofBits (List.replicate 32 true) := by
  have hbits : bitsOf 32 (0xFFFFFFFF : UInt32).toNat = List.replicate 32 true := by decide
  rw [residue, hbits]

/-- inverting the first bits adds a power of X to each of them -/
theorem ofBits_invertFirst (bs : List Bool) :
    ofBits (invertFirst (bs ++ List.replicate 32 false)) =
      X ^ bs.length * ofBits (List.replicate 32 true) + X ^ 32 * ofBits bs := by
  have hlength : (bs ++ List.replicate 32 false).length = bs.length + 32 := by simp
  generalize hall : bs ++ List.replicate 32 false = all at hlength
  have htake : (all.take 32).length = 32 := by
    rw [List.length_take, hlength]
    omega
  have hdrop : (all.drop 32).length = bs.length := by
    rw [List.length_drop, hlength]
    omega
  have hwhole : ofBits all = ofBits (all.take 32) * X ^ bs.length + ofBits (all.drop 32) := by
    conv_lhs => rw [← List.take_append_drop 32 all, ofBits_append, hdrop]
  have hmessage : ofBits all = ofBits bs * X ^ 32 := by
    rw [← hall, ofBits_append, ofBits_replicate_false, List.length_replicate, add_zero]
  rw [invertFirst, ofBits_append, ofBits_map_not, htake, hdrop]
  linear_combination hmessage - hwhole

theorem residue_crc32 (bs : List UInt8) :
    ofBits ((bitsOf 32 (crc32 bs).toNat).map not) = residue (bs.foldl feed 0xFFFFFFFF) := by
  have htwo : ofBits (List.replicate 32 true) + ofBits (List.replicate 32 true) = 0 := CharTwo.add_self_eq_zero _
  have hcrc : ofBits (bitsOf 32 (crc32 bs).toNat) = residue (bs.foldl feed 0xFFFFFFFF) + residue 0xFFFFFFFF :=
    residue_xor _ _
  rw [ofBits_map_not, bitsOf_length, hcrc, residue_ones, add_assoc, htwo, add_zero]

theorem isCrc32_crc32 (bs : List UInt8) : IsCrc32 bs (crc32 bs) := by
  have hsmall : (residue (bs.foldl feed 0xFFFFFFFF)).degree < generator.degree := by
    rw [degree_generator]
    exact degree_residue_lt _
  have hfold := residue_foldl 0xFFFFFFFF bs
  rw [residue_ones, ← bits_length, ← ofBits_invertFirst] at hfold
  rw [IsCrc32, residue_crc32, ← (modByMonic_eq_self_iff generator_monic).2 hsmall]
  exact modByMonic_eq_of_dvd_sub generator_monic (AdjoinRoot.mk_eq_mk.1 hfold)

/-- **The checksum is CRC-32.** A number is the checksum of a message, as IEEE 802.3 defines it, just if it is the one
that the register computes. -/
theorem isCrc32_iff {bs : List UInt8} {c : UInt32} : IsCrc32 bs c ↔ c = crc32 bs := by
  constructor
  · intro h
    have hpoly := h.trans (isCrc32_crc32 bs).symm
    have hnot := ofBits_injective (by simp [bitsOf_length]) hpoly
    have hbits : bitsOf 32 c.toNat = bitsOf 32 (crc32 bs).toNat :=
      List.map_injective_iff.2 (fun a b hab => by simpa using hab) hnot
    exact UInt32.toNat_inj.1 (bitsOf_injective c.toNat_lt (crc32 bs).toNat_lt hbits)
  · rintro rfl
    exact isCrc32_crc32 bs

/-- **Short damage is seen.** A change within four bytes in a row changes the checksum, whatever stands before and
behind them. -/
theorem crc32_burst (before behind : List UInt8) {bs bs' : List UInt8} (hlength : bs'.length = bs.length)
    (hshort : bs.length ≤ 4) (hne : bs' ≠ bs) :
    crc32 (before ++ bs' ++ behind) ≠ crc32 (before ++ bs ++ behind) := by
  intro hsame
  have hregister : (before ++ bs' ++ behind).foldl feed 0xFFFFFFFF =
      (before ++ bs ++ behind).foldl feed 0xFFFFFFFF := by
    refine residue_injective ?_
    rw [← residue_crc32, ← residue_crc32, hsame]
  -- both messages are the same but for the polynomial of the burst, moved behind its place
  have hmessage : ∀ x : List UInt8, ofBits (bits (before ++ x ++ behind)) =
      ofBits (bits before) * X ^ (8 * (x.length + behind.length)) + X ^ (8 * behind.length) * ofBits (bits x) +
        ofBits (bits behind) := by
    intro x
    rw [bits_append, bits_append, ofBits_append, ofBits_append, bits_length, bits_length, Nat.mul_add, pow_add]
    ring
  have hfold := residue_foldl 0xFFFFFFFF (before ++ bs ++ behind)
  rw [← hregister, residue_foldl] at hfold
  have hdvd := AdjoinRoot.mk_eq_mk.1 hfold
  have hcount : (before ++ bs' ++ behind).length = (before ++ bs ++ behind).length := by simp [hlength]
  have hshape : X ^ (8 * (before ++ bs' ++ behind).length) * residue 0xFFFFFFFF +
        X ^ 32 * ofBits (bits (before ++ bs' ++ behind)) -
      (X ^ (8 * (before ++ bs ++ behind).length) * residue 0xFFFFFFFF +
        X ^ 32 * ofBits (bits (before ++ bs ++ behind))) =
      X ^ (32 + 8 * behind.length) * (ofBits (bits bs') - ofBits (bits bs)) := by
    rw [hcount, hmessage, hmessage, hlength, pow_add]
    ring
  rw [hshape] at hdvd
  have hburst : generator ∣ ofBits (bits bs') - ofBits (bits bs) :=
    (generator_coprime_X_pow _).dvd_of_dvd_mul_left hdvd
  have hdegree : ∀ x : List UInt8, x.length = bs.length → (ofBits (bits x)).degree < generator.degree := by
    intro x hx
    refine (degree_ofBits_lt (bits x)).trans_le ?_
    rw [bits_length, degree_generator, hx]
    exact_mod_cast (by omega : 8 * bs.length ≤ 32)
  have hdifference : (ofBits (bits bs') - ofBits (bits bs)).degree < generator.degree :=
    (degree_sub_le _ _).trans_lt (max_lt (hdegree bs' hlength) (hdegree bs rfl))
  have hzero : ofBits (bits bs') - ofBits (bits bs) = 0 := eq_zero_of_dvd_of_degree_lt hburst hdifference
  have hbits := ofBits_injective (by rw [bits_length, bits_length, hlength]) (sub_eq_zero.1 hzero)
  exact hne (bits_injective hlength hbits)

end EventBroker.Checksum
