/-
What MessagePack writes, it reads.

- `Datum.Fits depth`: every length fits in four bytes, every integer in eight, there is nothing that is written as
  nothing, and sequences and maps are nested at most `depth` deep.
- `readWithin_write`: such a datum is read back from its bytes, whatever follows them.
- `readWithin_write_eq_none`: one that is only nested too deep is refused.
-/
import Mathlib.Algebra.Group.Int.Defs
import Mathlib.Algebra.Group.Nat.Defs
import Mathlib.Tactic.Common
import EventBroker.MessagePack.Reader
import EventBroker.MessagePack.Writer

namespace EventBroker

/-- a datum that can be written and read back by a reader that enters so many levels -/
def Datum.Fits : (depth : Nat) → Datum → Prop
  | _, .nil => True
  | _, .bool _ => True
  | _, .int n => -2 ^ 63 ≤ n ∧ n < 2 ^ 64
  | _, .text s => (Text.Utf8.bytes s).length < 2 ^ 32
  | _, .bytes b => b.length < 2 ^ 32
  | 0, .seq _ => False
  | depth + 1, .seq ds => ds.length < 2 ^ 32 ∧ ∀ d ∈ ds, d.Fits depth
  | 0, .map _ => False
  | depth + 1, .map es => es.length < 2 ^ 32 ∧ ∀ e ∈ es, e.1.Fits depth ∧ e.2.Fits depth
  | _, .real => False
  | _, .extension => False
  | _, .broken => False

/-- more levels do no harm -/
theorem Datum.Fits.mono {depth depth' : Nat} (hle : depth ≤ depth') {d : Datum} (h : d.Fits depth) : d.Fits depth' := by
  induction depth generalizing depth' d with
  | zero =>
    cases d with
    | seq ds => exact False.elim h
    | map es => exact False.elim h
    | _ => cases depth' <;> exact h
  | succ depth ih =>
    obtain ⟨depth', rfl⟩ : ∃ n, depth' = n + 1 := ⟨depth' - 1, by omega⟩
    have hle : depth ≤ depth' := by omega
    cases d with
    | seq ds => exact ⟨h.1, fun d hd => ih hle (h.2 d hd)⟩
    | map es => exact ⟨h.1, fun e he => ⟨ih hle (h.2 e he).1, ih hle (h.2 e he).2⟩⟩
    | _ => exact h

theorem Datum.fits_nil (depth : Nat) : Datum.nil.Fits depth := Fits.mono (Nat.zero_le depth) (d := .nil) trivial

namespace MessagePack

/-! ## Numbers -/

theorem bigEndian_length (count n : Nat) : (bigEndian count n).length = count := by
  induction count generalizing n with
  | zero => rfl
  | succ count ih => simp only [bigEndian, List.length_append, ih, List.length_singleton]

theorem natOf_append (bs : List UInt8) (b : UInt8) : natOf (bs ++ [b]) = natOf bs * 256 + b.toNat := by
  simp only [natOf, List.foldl_append, List.foldl_cons, List.foldl_nil]

theorem natOf_bigEndian {count n : Nat} (h : n < 256 ^ count) : natOf (bigEndian count n) = n := by
  induction count generalizing n with
  | zero =>
    have : n = 0 := by simpa using h
    rw [this]
    rfl
  | succ count ih =>
    have hdiv : n / 256 < 256 ^ count := by
      rw [Nat.pow_succ] at h
      exact Nat.div_lt_of_lt_mul (by omega)
    rw [bigEndian, natOf_append, ih hdiv, UInt8.toNat_ofNat']
    omega

theorem take_append (bs rest : List UInt8) : take bs.length (bs ++ rest) = some (bs, rest) := by
  simp [take]

theorem takeNat_bigEndian {count n : Nat} (h : n < 256 ^ count) (rest : List UInt8) :
    takeNat count (bigEndian count n ++ rest) = some (n, rest) := by
  have ht := take_append (bigEndian count n) rest
  rw [bigEndian_length] at ht
  simp [takeNat, ht, natOf_bigEndian h]

theorem takeInt_bigEndian {count n : Nat} (h : n < 256 ^ count) (rest : List UInt8) :
    takeInt count (bigEndian count n ++ rest) =
      some (if 2 * n < 256 ^ count then (n : Int) else (n : Int) - 256 ^ count, rest) := by
  simp [takeInt, takeNat_bigEndian h]

theorem toNat_ofNat_of_lt {n : Nat} (h : n < 256) : (UInt8.ofNat n).toNat = n := by
  rw [UInt8.toNat_ofNat']
  exact Nat.mod_eq_of_lt h

/-! ## Heads -/

/-- some bytes are a head, whatever follows them -/
def IsHead (bs : List UInt8) (h : Head) : Prop :=
  ∀ rest, ∃ b tail, bs ++ rest = b :: tail ∧ head b tail = some (h, rest)

theorem isHead_sized {b : UInt8} {count n : Nat} {f : Nat → Head}
    (hb : ∀ rest, head b rest = (takeNat count rest).map fun (k, r) => (f k, r)) (h : n < 256 ^ count) :
    IsHead (b :: bigEndian count n) (f n) := by
  intro rest
  refine ⟨b, bigEndian count n ++ rest, rfl, ?_⟩
  rw [hb, takeNat_bigEndian h]
  rfl

theorem isHead_textHead {n : Nat} (h : n < 2 ^ 32) : IsHead (textHead n) (.text n) := by
  unfold textHead
  split
  · intro rest
    refine ⟨_, rest, rfl, ?_⟩
    have hn : (UInt8.ofNat (0xA0 + n)).toNat = 0xA0 + n := toNat_ofNat_of_lt (by omega)
    simp only [head, hn]
    rw [if_neg (by omega), if_neg (by omega), if_neg (by omega), if_pos (by omega)]
    simp
  · split
    · exact isHead_sized (fun _ => rfl) (by omega)
    · split
      · exact isHead_sized (fun _ => rfl) (by omega)
      · exact isHead_sized (fun _ => rfl) (by omega)

theorem isHead_bytesHead {n : Nat} (h : n < 2 ^ 32) : IsHead (bytesHead n) (.bytes n) := by
  unfold bytesHead
  split
  · exact isHead_sized (fun _ => rfl) (by omega)
  · split
    · exact isHead_sized (fun _ => rfl) (by omega)
    · exact isHead_sized (fun _ => rfl) (by omega)

theorem isHead_seqHead {n : Nat} (h : n < 2 ^ 32) : IsHead (seqHead n) (.seq n) := by
  unfold seqHead
  split
  · intro rest
    refine ⟨_, rest, rfl, ?_⟩
    have hn : (UInt8.ofNat (0x90 + n)).toNat = 0x90 + n := toNat_ofNat_of_lt (by omega)
    simp only [head, hn]
    rw [if_neg (by omega), if_neg (by omega), if_pos (by omega)]
    simp
  · split
    · exact isHead_sized (fun _ => rfl) (by omega)
    · exact isHead_sized (fun _ => rfl) (by omega)

theorem isHead_mapHead {n : Nat} (h : n < 2 ^ 32) : IsHead (mapHead n) (.map n) := by
  unfold mapHead
  split
  · intro rest
    refine ⟨_, rest, rfl, ?_⟩
    have hn : (UInt8.ofNat (0x80 + n)).toNat = 0x80 + n := toNat_ofNat_of_lt (by omega)
    simp only [head, hn]
    rw [if_neg (by omega), if_pos (by omega)]
    simp
  · split
    · exact isHead_sized (fun _ => rfl) (by omega)
    · exact isHead_sized (fun _ => rfl) (by omega)

theorem isHead_writeNat {n : Nat} (h : n < 2 ^ 64) : IsHead (writeNat n) (.datum (.int n)) := by
  unfold writeNat
  split
  · intro rest
    refine ⟨_, rest, rfl, ?_⟩
    have hn : (UInt8.ofNat n).toNat = n := toNat_ofNat_of_lt (by omega)
    simp only [head, hn]
    rw [if_pos (by omega)]
  · split
    · exact isHead_sized (f := fun k => .datum (.int k)) (fun _ => rfl) (by omega)
    · split
      · exact isHead_sized (f := fun k => .datum (.int k)) (fun _ => rfl) (by omega)
      · split
        · exact isHead_sized (f := fun k => .datum (.int k)) (fun _ => rfl) (by omega)
        · exact isHead_sized (f := fun k => .datum (.int k)) (fun _ => rfl) (by omega)

/-- the two's complement of a number that is not too big -/
theorem isHead_negative {b : UInt8} {count n : Nat}
    (hb : ∀ rest, head b rest = (takeInt count rest).map fun (k, r) => (.datum (.int k), r)) (hpos : 0 < n)
    (h : 2 * n ≤ 256 ^ count) : IsHead (b :: bigEndian count (256 ^ count - n)) (.datum (.int (-n))) := by
  intro rest
  refine ⟨b, bigEndian count (256 ^ count - n) ++ rest, rfl, ?_⟩
  have hvalue : ((256 ^ count - n : Nat) : Int) - 256 ^ count = -n := by
    have hle : n ≤ 256 ^ count := by omega
    have hpow : ((256 ^ count : Nat) : Int) = (256 : Int) ^ count := Int.natCast_pow 256 count
    rw [Int.ofNat_sub hle, hpow]
    omega
  rw [hb, takeInt_bigEndian (by omega), if_neg (by omega), hvalue]
  rfl

theorem isHead_writeNegative {n : Nat} (hpos : 0 < n) (h : n ≤ 2 ^ 63) :
    IsHead (writeNegative n) (.datum (.int (-n))) := by
  unfold writeNegative
  split
  · intro rest
    refine ⟨_, rest, rfl, ?_⟩
    have hn : (UInt8.ofNat (256 - n)).toNat = 256 - n := toNat_ofNat_of_lt (by omega)
    simp only [head, hn]
    rw [if_neg (by omega), if_neg (by omega), if_neg (by omega), if_neg (by omega), if_pos (by omega)]
    have hvalue : ((256 - n : Nat) : Int) - 0x100 = -n := by omega
    rw [hvalue]
  · split
    · exact isHead_negative (fun _ => rfl) hpos (by omega)
    · split
      · exact isHead_negative (fun _ => rfl) hpos (by omega)
      · split
        · exact isHead_negative (fun _ => rfl) hpos (by omega)
        · exact isHead_negative (fun _ => rfl) hpos (by omega)

theorem isHead_writeInt {n : Int} (hlo : -2 ^ 63 ≤ n) (hhi : n < 2 ^ 64) :
    IsHead (writeInt n) (.datum (.int n)) := by
  unfold writeInt
  split
  · have hn : n = (n.toNat : Int) := by omega
    have hhead := isHead_writeNat (n := n.toNat) (by omega)
    rwa [← hn] at hhead
  · have hn : n = -(n.natAbs : Int) := by omega
    have hhead := isHead_writeNegative (n := n.natAbs) (by omega) (by omega)
    rwa [← hn] at hhead

/-! ## Data -/

/-- a reader goes on behind a head -/
theorem readWithin_head {bs : List UInt8} {h : Head} (hh : IsHead bs h) (depth : Nat) (rest : List UInt8) :
    readWithin depth (bs ++ rest) =
      body (match depth with
        | 0 => none
        | depth + 1 => some (readWithin depth)) h rest := by
  obtain ⟨b, tail, hbs, hhead⟩ := hh rest
  rw [hbs]
  cases depth with
  | zero =>
    unfold readWithin
    rw [hhead]
    rfl
  | succ depth =>
    unfold readWithin
    rw [hhead]
    rfl

theorem many_items {one : List UInt8 → Option (Datum × List UInt8)} {ds : List Datum}
    (h : ∀ d ∈ ds, ∀ rest, one (write d ++ rest) = some (d, rest)) (rest : List UInt8) :
    many one ds.length (writeItems ds ++ rest) = some (ds, rest) := by
  induction ds with
  | nil => simp [many, writeItems]
  | cons d ds ih =>
    have htail := ih fun e he => h e (List.mem_cons_of_mem d he)
    rw [writeItems, List.append_assoc, List.length_cons]
    simp only [many, h d List.mem_cons_self, htail, Option.map_some]

theorem many_entries {one : List UInt8 → Option (Datum × List UInt8)} {es : List (Datum × Datum)}
    (h : ∀ e ∈ es, ∀ rest, one (write e.1 ++ rest) = some (e.1, rest) ∧ one (write e.2 ++ rest) = some (e.2, rest))
    (rest : List UInt8) : many (pair one) es.length (writeEntries es ++ rest) = some (es, rest) := by
  induction es with
  | nil => simp [many, writeEntries]
  | cons e es ih =>
    obtain ⟨k, d⟩ := e
    have htail := ih fun e he => h e (List.mem_cons_of_mem _ he)
    have hkey := fun rest => (h (k, d) List.mem_cons_self rest).1
    have hdatum := fun rest => (h (k, d) List.mem_cons_self rest).2
    have hpair : pair one (write k ++ (write d ++ (writeEntries es ++ rest))) =
        some ((k, d), writeEntries es ++ rest) := by
      simp [pair, hkey, hdatum]
    rw [writeEntries, List.append_assoc, List.append_assoc, List.length_cons]
    simp only [many, hpair, htail, Option.map_some]

/-- bytes of the right number that are a text -/
theorem takeText_bytes (t : String) (rest : List UInt8) :
    takeText (Text.Utf8.bytes t).length (Text.Utf8.bytes t ++ rest) = some (.text t, rest) := by
  simp [takeText, take_append, Text.Utf8.text?_bytes]

/-- **Round trip.** A datum that fits is read back from its bytes, and what follows them is left. -/
theorem readWithin_write {depth : Nat} {d : Datum} (h : d.Fits depth) (rest : List UInt8) :
    readWithin depth (write d ++ rest) = some (d, rest) := by
  induction depth generalizing d rest with
  | zero =>
    cases d with
    | nil => rfl
    | bool b => cases b <;> rfl
    | int n => exact readWithin_head (isHead_writeInt h.1 h.2) 0 rest
    | text t =>
      rw [write, List.append_assoc, readWithin_head (isHead_textHead h)]
      exact takeText_bytes t rest
    | bytes b =>
      rw [write, List.append_assoc, readWithin_head (isHead_bytesHead h)]
      simp [body, take_append]
    | seq ds => cases h
    | map es => cases h
    | real => cases h
    | extension => cases h
    | broken => cases h
  | succ depth ih =>
    cases d with
    | nil => rfl
    | bool b => cases b <;> rfl
    | int n => exact readWithin_head (isHead_writeInt h.1 h.2) (depth + 1) rest
    | text t =>
      rw [write, List.append_assoc, readWithin_head (isHead_textHead h)]
      exact takeText_bytes t rest
    | bytes b =>
      rw [write, List.append_assoc, readWithin_head (isHead_bytesHead h)]
      simp [body, take_append]
    | seq ds =>
      obtain ⟨hlen, hitems⟩ := h
      rw [write, List.append_assoc, readWithin_head (isHead_seqHead hlen)]
      simp [body, many_items fun d hd rest => ih (hitems d hd) rest]
    | map es =>
      obtain ⟨hlen, hentries⟩ := h
      rw [write, List.append_assoc, readWithin_head (isHead_mapHead hlen)]
      simp [body, many_entries fun e he rest => ⟨ih (hentries e he).1 rest, ih (hentries e he).2 rest⟩]
    | real => cases h
    | extension => cases h
    | broken => cases h

/-! ## Data that are nested too deep -/

/-- a reader that refuses one of the items refuses all -/
theorem many_refused {one : List UInt8 → Option (Datum × List UInt8)} {ds : List Datum}
    (h : ∀ d ∈ ds, (∀ rest, one (write d ++ rest) = some (d, rest)) ∨ ∀ rest, one (write d ++ rest) = none)
    (hrefused : ∃ d ∈ ds, ∀ rest, one (write d ++ rest) = none) (rest : List UInt8) :
    many one ds.length (writeItems ds ++ rest) = none := by
  induction ds with
  | nil =>
    obtain ⟨d, hd, -⟩ := hrefused
    cases hd
  | cons d ds ih =>
    rw [writeItems, List.append_assoc, List.length_cons]
    rcases h d List.mem_cons_self with hread | hnone
    · obtain ⟨e, he, hnone⟩ := hrefused
      have htail : e ∈ ds := by
        rcases List.mem_cons.1 he with rfl | he
        · cases (hread []).symm.trans (hnone [])
        · exact he
      simp only [many, hread, ih (fun x hx => h x (List.mem_cons_of_mem d hx)) ⟨e, htail, hnone⟩, Option.map_none]
    · simp only [many, hnone]

/-- the same of entries -/
theorem many_pair_refused {one : List UInt8 → Option (Datum × List UInt8)} {es : List (Datum × Datum)}
    (h : ∀ e ∈ es, ∀ d ∈ [e.1, e.2], (∀ rest, one (write d ++ rest) = some (d, rest)) ∨
      ∀ rest, one (write d ++ rest) = none)
    (hrefused : ∃ e ∈ es, ∃ d ∈ [e.1, e.2], ∀ rest, one (write d ++ rest) = none) (rest : List UInt8) :
    many (pair one) es.length (writeEntries es ++ rest) = none := by
  induction es with
  | nil =>
    obtain ⟨e, he, -⟩ := hrefused
    cases he
  | cons e es ih =>
    obtain ⟨k, d⟩ := e
    rw [writeEntries, List.append_assoc, List.append_assoc, List.length_cons]
    rcases h (k, d) List.mem_cons_self k (by simp) with hkey | hkey
    · rcases h (k, d) List.mem_cons_self d (by simp) with hvalue | hvalue
      · have hpair : ∀ rest, pair one (write k ++ (write d ++ rest)) = some ((k, d), rest) := by
          intro rest
          simp [pair, hkey, hvalue]
        have htail : ∃ e ∈ es, ∃ d ∈ [e.1, e.2], ∀ rest, one (write d ++ rest) = none := by
          obtain ⟨e, he, x, hx, hnone⟩ := hrefused
          rcases List.mem_cons.1 he with rfl | he
          · simp only [List.mem_cons, List.not_mem_nil, or_false] at hx
            rcases hx with rfl | rfl
            · cases (hkey []).symm.trans (hnone [])
            · cases (hvalue []).symm.trans (hnone [])
          · exact ⟨e, he, x, hx, hnone⟩
        simp only [many, hpair, ih (fun e he => h e (List.mem_cons_of_mem _ he)) htail, Option.map_none]
      · simp [many, pair, hkey, hvalue]
    · simp [many, pair, hkey]

/-- **Limit.** A datum that would fit a reader of more levels is refused by one that it does not fit. -/
theorem readWithin_write_eq_none {depth n : Nat} {d : Datum} (h : d.Fits n) (hd : ¬ d.Fits depth) (rest : List UInt8) :
    readWithin depth (write d ++ rest) = none := by
  induction depth generalizing n d rest with
  | zero =>
    cases d with
    | seq ds =>
      cases n with
      | zero => cases h
      | succ n =>
        rw [write, List.append_assoc, readWithin_head (isHead_seqHead h.1)]
        rfl
    | map es =>
      cases n with
      | zero => cases h
      | succ n =>
        rw [write, List.append_assoc, readWithin_head (isHead_mapHead h.1)]
        rfl
    | _ => cases n <;> exact absurd h hd
  | succ depth ih =>
    -- an item is read or refused, and if all were read, the datum would fit
    have hitem : ∀ {m : Nat} {e : Datum}, e.Fits m → (∀ rest, readWithin depth (write e ++ rest) = some (e, rest)) ∨
        ∀ rest, readWithin depth (write e ++ rest) = none := by
      intro m e he
      by_cases hfits : e.Fits depth
      · exact Or.inl (readWithin_write hfits)
      · exact Or.inr (ih he hfits)
    cases d with
    | seq ds =>
      cases n with
      | zero => cases h
      | succ n =>
        obtain ⟨hlen, hitems⟩ := h
        have hdeep : ∃ e ∈ ds, ¬ e.Fits depth := by
          by_contra hall
          exact hd ⟨hlen, fun e he => by_contra fun hne => hall ⟨e, he, hne⟩⟩
        obtain ⟨e, he, hne⟩ := hdeep
        rw [write, List.append_assoc, readWithin_head (isHead_seqHead hlen)]
        simp [body, many_refused (fun x hx => hitem (hitems x hx)) ⟨e, he, ih (hitems e he) hne⟩]
    | map es =>
      cases n with
      | zero => cases h
      | succ n =>
        obtain ⟨hlen, hentries⟩ := h
        have hparts : ∀ e ∈ es, ∀ x ∈ [e.1, e.2], x.Fits n := by
          intro e he x hx
          simp only [List.mem_cons, List.not_mem_nil, or_false] at hx
          rcases hx with rfl | rfl
          · exact (hentries e he).1
          · exact (hentries e he).2
        have hdeep : ∃ e ∈ es, ∃ x ∈ [e.1, e.2], ¬ x.Fits depth := by
          by_contra hall
          refine hd ⟨hlen, fun e he => ⟨?_, ?_⟩⟩
          · exact by_contra fun hne => hall ⟨e, he, e.1, by simp, hne⟩
          · exact by_contra fun hne => hall ⟨e, he, e.2, by simp, hne⟩
        obtain ⟨e, he, x, hx, hne⟩ := hdeep
        rw [write, List.append_assoc, readWithin_head (isHead_mapHead hlen)]
        simp [body, many_pair_refused (fun e he x hx => hitem (hparts e he x hx))
          ⟨e, he, x, hx, ih (hparts e he x hx) hne⟩]
    | _ => cases n <;> exact absurd h hd

/-! ## Whole documents -/

theorem read_write {d : Datum} (h : d.Fits maxDepth) : read (write d) = some d := by
  have hread := readWithin_write h []
  rw [List.append_nil] at hread
  rw [read, hread]
  rfl

theorem read_write_eq_none {n : Nat} {d : Datum} (h : d.Fits n) (hd : ¬ d.Fits maxDepth) : read (write d) = none := by
  have hread := readWithin_write_eq_none h hd []
  rw [List.append_nil] at hread
  rw [read, hread]
  rfl

/-! ## Lengths -/

theorem textHead_length_le (n : Nat) : (textHead n).length ≤ 5 := by
  unfold textHead
  split
  · simp
  · split
    · simp [bigEndian_length]
    · split <;> simp [bigEndian_length]

theorem write_text_length_le (s : String) : (write (.text s)).length ≤ 5 + (Text.Utf8.bytes s).length := by
  have hhead := textHead_length_le (Text.Utf8.bytes s).length
  rw [write, List.length_append]
  omega

theorem writeInt_length_le (n : Int) : (writeInt n).length ≤ 9 := by
  unfold writeInt writeNat writeNegative
  repeat' split
  all_goals simp [bigEndian_length]

end MessagePack

end EventBroker
