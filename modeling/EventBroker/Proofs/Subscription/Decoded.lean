/-
Records as they come from bytes.

A reader enters so many levels and takes lengths of four bytes at most, and so whatever it makes of any bytes keeps
within the limits of the format. A record that is made of such a datum therefore fits: it can be written again.

- `Datum.Within depth`: texts, sequences and maps are shorter than four bytes can tell, and nested at most so deep.
- `readWithin_within`: this is so for every datum that is read, from whatever bytes.
- `SubscriptionRecord.fits_of_ofDatum?`: a record made of such a datum fits.
-/
import Mathlib.Data.List.Induction
import EventBroker.Proofs.Subscription.Record

namespace EventBroker

/-! ## Data that are read -/

/-- lengths fit in four bytes, and sequences and maps are nested at most so deep -/
def Datum.Within : (depth : Nat) → Datum → Prop
  | _, .text s => (Text.Utf8.bytes s).length < 2 ^ 32
  | _, .bytes b => b.length < 2 ^ 32
  | 0, .seq _ => False
  | depth + 1, .seq ds => ds.length < 2 ^ 32 ∧ ∀ d ∈ ds, d.Within depth
  | 0, .map _ => False
  | depth + 1, .map es => es.length < 2 ^ 32 ∧ ∀ e ∈ es, e.1.Within depth ∧ e.2.Within depth
  | _, _ => True

namespace MessagePack

theorem natOf_lt (bs : List UInt8) : natOf bs < 256 ^ bs.length := by
  induction bs using List.reverseRecOn with
  | nil => exact Nat.one_pos
  | append_singleton bs b ih =>
    have hb : b.toNat < 256 := b.toNat_lt
    rw [natOf_append, List.length_append, List.length_singleton, Nat.pow_succ]
    omega

theorem take_length {n : Nat} {bs b rest : List UInt8} (h : take n bs = some (b, rest)) : b.length = n := by
  unfold take at h
  split at h
  · cases h
    assumption
  · cases h

/-- a head announces lengths of four bytes at most -/
def Head.Modest : Head → Prop
  | .datum d => ∀ depth, d.Within depth
  | .text n => n < 2 ^ 32
  | .bytes n => n < 2 ^ 32
  | .seq n => n < 2 ^ 32
  | .map n => n < 2 ^ 32
  | .extension _ => True

theorem Head.modest_int (n : Int) : (Head.datum (.int n)).Modest := fun depth => by cases depth <;> trivial

/-- a length of four bytes at most is modest -/
theorem sized_modest (f : Nat → Head) (hf : ∀ n, n < 2 ^ 32 → (f n).Modest) {count : Nat} (hcount : count ≤ 4)
    {bs rest : List UInt8} {h : Head} (hh : ((takeNat count bs).map fun (k, r) => (f k, r)) = some (h, rest)) :
    h.Modest := by
  obtain ⟨⟨k, r⟩, hk, heq⟩ := Option.map_eq_some_iff.1 hh
  cases heq
  obtain ⟨⟨b, r'⟩, htake, heq⟩ := Option.bind_eq_some_iff.1 hk
  cases heq
  refine hf _ (Nat.lt_of_lt_of_le (natOf_lt b) ?_)
  rw [take_length htake]
  calc 256 ^ count ≤ 256 ^ 4 := Nat.pow_le_pow_right (by decide) hcount
    _ = 2 ^ 32 := by decide

/-- what is made of anything that is taken is modest if all that can be made is -/
theorem made_modest {α : Type} (f : α → Head) (hf : ∀ a, (f a).Modest) {taken : Option (α × List UInt8)}
    {rest : List UInt8} {h : Head} (hh : (taken.map fun (a, r) => (f a, r)) = some (h, rest)) : h.Modest := by
  obtain ⟨⟨a, r⟩, -, heq⟩ := Option.map_eq_some_iff.1 hh
  cases heq
  exact hf a

theorem head_modest {b : UInt8} {bs rest : List UInt8} {h : Head} (hh : head b bs = some (h, rest)) : h.Modest := by
  have hb := b.toNat_lt
  have hnil : (Head.datum .nil).Modest := fun depth => by cases depth <;> trivial
  have hbool (x : Bool) : (Head.datum (.bool x)).Modest := fun depth => by cases depth <;> trivial
  have hreal : (Head.datum .real).Modest := fun depth => by cases depth <;> trivial
  unfold head at hh
  dsimp only at hh
  split at hh
  · cases hh
    exact Head.modest_int _
  · split at hh
    · cases hh
      show b.toNat - 0x80 < 2 ^ 32
      omega
    · split at hh
      · cases hh
        show b.toNat - 0x90 < 2 ^ 32
        omega
      · split at hh
        · cases hh
          show b.toNat - 0xA0 < 2 ^ 32
          omega
        · split at hh
          · cases hh
            exact Head.modest_int _
          · -- one case for each head that stands alone
            split at hh
            all_goals first
              | exact sized_modest .bytes (fun _ hn => hn) (by decide) hh
              | exact sized_modest .text (fun _ hn => hn) (by decide) hh
              | exact sized_modest .seq (fun _ hn => hn) (by decide) hh
              | exact sized_modest .map (fun _ hn => hn) (by decide) hh
              | exact made_modest .extension (fun _ => trivial) hh
              | exact made_modest (fun _ => .datum .real) (fun _ => hreal) hh
              | exact made_modest (fun n : Nat => .datum (.int n)) (fun _ => Head.modest_int _) hh
              | exact made_modest (fun n : Int => .datum (.int n)) (fun _ => Head.modest_int _) hh
              | cases hh
            all_goals first
              | exact hnil
              | exact hbool _
              | exact trivial

/-! ### Reading -/

theorem many_forall {α : Type} {one : List UInt8 → Option (α × List UInt8)} {P : α → Prop}
    (h : ∀ bs a rest, one bs = some (a, rest) → P a) {n : Nat} {bs rest : List UInt8} {as : List α}
    (has : many one n bs = some (as, rest)) : as.length = n ∧ ∀ a ∈ as, P a := by
  induction n generalizing bs as with
  | zero =>
    cases has
    exact ⟨rfl, by simp⟩
  | succ n ih =>
    rw [many] at has
    split at has
    · cases has
    · rename_i a rest' hone
      obtain ⟨⟨as', r⟩, hmany, heq⟩ := Option.map_eq_some_iff.1 has
      cases heq
      obtain ⟨hlength, hall⟩ := ih hmany
      refine ⟨by rw [List.length_cons, hlength], fun x hx => ?_⟩
      rcases List.mem_cons.1 hx with rfl | hx
      · exact h _ _ _ hone
      · exact hall x hx

theorem takeText_within {n : Nat} (hn : n < 2 ^ 32) {bs rest : List UInt8} {d : Datum}
    (h : takeText n bs = some (d, rest)) (depth : Nat) : d.Within depth := by
  obtain ⟨⟨b, r⟩, htake, hmake⟩ := Option.bind_eq_some_iff.1 h
  have hlength : b.length < 2 ^ 32 := by rwa [take_length htake]
  dsimp only at hmake
  split at hmake
  · rename_i s hs
    cases hmake
    have hbytes : (Text.Utf8.bytes s).length < 2 ^ 32 := by rwa [Text.Utf8.bytes_of_text? hs]
    cases depth <;> exact hbytes
  · cases hmake
    cases depth <;> exact hlength

/-- both parts of an entry come from the reader -/
theorem pair_forall {one : List UInt8 → Option (Datum × List UInt8)} {P : Datum → Prop}
    (h : ∀ bs d rest, one bs = some (d, rest) → P d) {bs rest : List UInt8} {e : Datum × Datum}
    (he : pair one bs = some (e, rest)) : P e.1 ∧ P e.2 := by
  obtain ⟨⟨k, r⟩, hkey, hrest⟩ := Option.bind_eq_some_iff.1 he
  obtain ⟨⟨d, r'⟩, hvalue, hmake⟩ := Option.bind_eq_some_iff.1 hrest
  cases hmake
  exact ⟨h _ _ _ hkey, h _ _ _ hvalue⟩

/-- what follows a head is within the limits if all that is nested in it is -/
theorem body_within {depth : Nat} {inner : Option (List UInt8 → Option (Datum × List UInt8))}
    (hinner : ∀ one, inner = some one → ∃ n, depth = n + 1 ∧ ∀ bs d rest, one bs = some (d, rest) → d.Within n)
    {h : Head} (hh : h.Modest) {bs rest : List UInt8} {d : Datum} (hd : body inner h bs = some (d, rest)) :
    d.Within depth := by
  cases h with
  | datum d' =>
    cases hd
    exact hh depth
  | text n => exact takeText_within hh hd depth
  | bytes n =>
    obtain ⟨⟨b, r⟩, htake, heq⟩ := Option.map_eq_some_iff.1 hd
    cases heq
    have hlength : b.length < 2 ^ 32 := by
      rw [take_length htake]
      exact hh
    cases depth <;> exact hlength
  | seq n =>
    obtain ⟨one, hone, hmany⟩ := Option.bind_eq_some_iff.1 hd
    obtain ⟨⟨ds, r⟩, hds, heq⟩ := Option.map_eq_some_iff.1 hmany
    obtain ⟨k, rfl, hread⟩ := hinner one hone
    obtain ⟨hlength, hall⟩ := many_forall hread hds
    cases heq
    exact ⟨hlength ▸ hh, hall⟩
  | map n =>
    obtain ⟨one, hone, hmany⟩ := Option.bind_eq_some_iff.1 hd
    obtain ⟨⟨es, r⟩, hes, heq⟩ := Option.map_eq_some_iff.1 hmany
    obtain ⟨k, rfl, hread⟩ := hinner one hone
    obtain ⟨hlength, hall⟩ := many_forall (fun _ _ _ he => pair_forall hread he) hes
    cases heq
    exact ⟨hlength ▸ hh, hall⟩
  | extension n =>
    obtain ⟨⟨b, r⟩, -, heq⟩ := Option.map_eq_some_iff.1 hd
    cases heq
    cases depth <;> trivial

/-- **Limits of reading.** Whatever is read, from whatever bytes, is within the limits of the reader. -/
theorem readWithin_within {depth : Nat} {bs rest : List UInt8} {d : Datum}
    (h : readWithin depth bs = some (d, rest)) : d.Within depth := by
  induction depth generalizing bs d rest with
  | zero =>
    cases bs with
    | nil => simp [readWithin] at h
    | cons b bs =>
      rw [readWithin] at h
      obtain ⟨⟨head, r⟩, hhead, hbody⟩ := Option.bind_eq_some_iff.1 h
      exact body_within (fun _ hone => by cases hone) (head_modest hhead) hbody
  | succ depth ih =>
    cases bs with
    | nil => simp [readWithin] at h
    | cons b bs =>
      rw [readWithin] at h
      obtain ⟨⟨head, r⟩, hhead, hbody⟩ := Option.bind_eq_some_iff.1 h
      refine body_within (fun one hone => ⟨depth, rfl, ?_⟩) (head_modest hhead) hbody
      cases hone
      exact fun _ _ _ hread => ih hread

theorem read_within {bs : List UInt8} {d : Datum} (h : read bs = some d) : d.Within maxDepth := by
  obtain ⟨⟨d', rest⟩, hread, rfl⟩ := Option.map_eq_some_iff.1 h
  exact readWithin_within hread

end MessagePack

/-! ## Fields -/

namespace Datum

theorem short_of_text? {depth : Nat} {d : Datum} (h : d.Within depth) {s : String} (hs : d.text? = some s) :
    Short s := by
  cases d with
  | text t =>
    cases hs
    cases depth <;> exact h
  | bytes b =>
    have hbytes : b.length < 2 ^ 32 := by cases depth <;> exact h
    have hs : Text.Utf8.text? b = some s := hs
    unfold Short
    rwa [Text.Utf8.bytes_of_text? hs]
  | _ => cases hs

theorem within_of_items? {depth : Nat} {d : Datum} (h : d.Within depth) {ds : List Datum} (hd : d.items? = some ds) :
    ∃ n, depth = n + 1 ∧ ds.length < 2 ^ 32 ∧ ∀ x ∈ ds, x.Within n := by
  cases d with
  | seq items =>
    cases hd
    cases depth with
    | zero => cases h
    | succ n => exact ⟨n, rfl, h⟩
  | _ => cases hd

theorem placeEntries_forall {P : Datum → Prop} {names : List String} {found placed : List (Option Datum)}
    {es : List (Datum × Datum)} (hfound : ∀ d, some d ∈ found → P d) (hes : ∀ e ∈ es, P e.2)
    (h : placeEntries names found es = some placed) : ∀ d, some d ∈ placed → P d := by
  induction es generalizing found with
  | nil =>
    cases h
    exact hfound
  | cons e es ih =>
    obtain ⟨k, d⟩ := e
    have htail : ∀ e ∈ es, P e.2 := fun e he => hes e (List.mem_cons_of_mem _ he)
    obtain ⟨key, -, h⟩ := Option.bind_eq_some_iff.1 h
    cases key with
    | none => exact ih hfound htail h
    | some i =>
      dsimp only at h
      split at h
      · refine ih (fun x hx => ?_) htail h
        rcases List.mem_or_eq_of_mem_set hx with hx | hx
        · exact hfound x hx
        · cases hx
          exact hes (k, d) List.mem_cons_self
      · cases h

/-- the fields of a record are one level further down -/
theorem within_of_fields? {depth : Nat} {d : Datum} (h : d.Within depth) {names : List String} {f : Fields}
    (hf : d.fields? names = some f) : ∃ n, depth = n + 1 ∧ ∀ x, some x ∈ f.found → x.Within n := by
  cases d with
  | seq ds =>
    cases depth with
    | zero => cases h
    | succ n =>
      rw [fields?] at hf
      split at hf
      · cases hf
        refine ⟨n, rfl, fun x hx => ?_⟩
        simp only [List.mem_append, List.mem_map, Option.some.injEq, exists_eq_right, List.mem_replicate, reduceCtorEq,
          and_false, or_false] at hx
        exact h.2 x hx
      · cases hf
  | map es =>
    cases depth with
    | zero => cases h
    | succ n =>
      obtain ⟨placed, hplaced, rfl⟩ := Option.map_eq_some_iff.1 hf
      refine ⟨n, rfl, placeEntries_forall (fun x hx => ?_) (fun e he => (h.2 e he).2) hplaced⟩
      simp at hx
  | _ => cases hf

namespace Fields

variable {α : Type} {f : Fields} {i : Nat} {read : Datum → Option α} {a : α}

theorem need_eq_some (h : f.need i read = some a) : ∃ d, some d ∈ f.found ∧ read d = some a := by
  unfold need at h
  split at h
  · exact ⟨_, List.mem_of_getElem? ‹_›, h⟩
  · cases h

theorem optional_eq_some (h : f.optional i read = some (some a)) : ∃ d, some d ∈ f.found ∧ read d = some a := by
  unfold optional at h
  split at h
  · rename_i d hd
    refine ⟨d, List.mem_of_getElem? hd, ?_⟩
    cases d with
    | nil => cases h
    | _ =>
      obtain ⟨b, hb, heq⟩ := Option.map_eq_some_iff.1 h
      cases heq
      exact hb
  · split at h <;> cases h

end Fields

end Datum

/-! ## Records -/

theorem mapM_eq_some_forall {α β : Type} {g : α → Option β} {P : β → Prop} {xs : List α} {ys : List β}
    (h : ∀ x ∈ xs, ∀ y, g x = some y → P y) (hys : xs.mapM g = some ys) : ys.length = xs.length ∧ ∀ y ∈ ys, P y := by
  induction xs generalizing ys with
  | nil =>
    cases hys
    exact ⟨rfl, by simp⟩
  | cons x xs ih =>
    rw [List.mapM_cons] at hys
    obtain ⟨y, hy, hys⟩ := Option.bind_eq_some_iff.1 hys
    obtain ⟨ys', hrest, heq⟩ := Option.bind_eq_some_iff.1 hys
    cases heq
    obtain ⟨hlength, hall⟩ := ih (fun z hz => h z (List.mem_cons_of_mem x hz)) hrest
    refine ⟨by rw [List.length_cons, List.length_cons, hlength], fun z hz => ?_⟩
    rcases List.mem_cons.1 hz with rfl | hz
    · exact h x List.mem_cons_self _ hy
    · exact hall z hz

/-- a text field of a record that is within limits is short -/
theorem Datum.Fields.short_of_need {depth : Nat} {f : Fields} (hf : ∀ x, some x ∈ f.found → x.Within depth) {i : Nat}
    {s : String} (h : f.need i Datum.text? = some s) : Short s := by
  obtain ⟨d, hd, hs⟩ := need_eq_some h
  exact short_of_text? (hf d hd) hs

theorem Datum.Fields.short_of_optional {depth : Nat} {f : Fields} (hf : ∀ x, some x ∈ f.found → x.Within depth)
    {i : Nat} {o : Option String} (h : f.optional i Datum.text? = some o) {s : String} (hs : o = some s) : Short s := by
  subst hs
  obtain ⟨d, hd, hs⟩ := optional_eq_some h
  exact short_of_text? (hf d hd) hs

namespace DeliveryParameter

theorem ofDatumWithin_eq_some {depth : Nat} {d : Datum} {p : DeliveryParameter} (h : ofDatumWithin depth d = some p) :
    ∃ m f, d.fields? ["namespace", "element_name", "value", "children"] = some f ∧
      f.need 0 Datum.text? = some p.space ∧ f.need 1 Datum.text? = some p.element ∧
      f.need 2 Datum.text? = some p.value ∧
      ∃ c cs, some c ∈ f.found ∧ c.items? = some cs ∧ cs.mapM (ofDatumWithin m) = some p.children := by
  cases depth with
  | zero => cases h
  | succ m =>
    simp only [ofDatumWithin, Option.bind_eq_bind, Option.bind_eq_some_iff] at h
    obtain ⟨f, hf, space, hspace, element, helement, value, hvalue, children, hchildren, heq⟩ := h
    cases heq
    obtain ⟨c, hc, hread⟩ := Datum.Fields.need_eq_some hchildren
    obtain ⟨cs, hcs, hmap⟩ := Option.bind_eq_some_iff.1 hread
    exact ⟨m, f, hf, hspace, helement, hvalue, c, cs, hc, hcs, hmap⟩

/-- every level of parameters takes two levels of data -/
theorem fits_of_ofDatumWithin {depth k : Nat} {d : Datum} (h : d.Within (2 * k + 1)) {p : DeliveryParameter}
    (hp : ofDatumWithin depth d = some p) : p.Fits k := by
  induction k generalizing depth d p with
  | zero =>
    obtain ⟨m, f, hf, -, -, -, c, cs, hc, hcs, -⟩ := ofDatumWithin_eq_some hp
    obtain ⟨n, hn, hfound⟩ := Datum.within_of_fields? h hf
    obtain ⟨n', hn', -⟩ := Datum.within_of_items? (hfound c hc) hcs
    omega
  | succ k ih =>
    obtain ⟨m, f, hf, hspace, helement, hvalue, c, cs, hc, hcs, hmap⟩ := ofDatumWithin_eq_some hp
    obtain ⟨n, hn, hfound⟩ := Datum.within_of_fields? h hf
    obtain ⟨n', hn', hcount, hitems⟩ := Datum.within_of_items? (hfound c hc) hcs
    have hlevel : n' = 2 * k + 1 := by omega
    subst hlevel
    obtain ⟨hlength, hall⟩ := mapM_eq_some_forall (fun x hx y hy => ih (hitems x hx) hy) hmap
    exact ⟨Datum.Fields.short_of_need hfound hspace, Datum.Fields.short_of_need hfound helement,
      Datum.Fields.short_of_need hfound hvalue, hlength ▸ hcount, hall⟩

end DeliveryParameter

theorem DeliveryDefinition.fits_of_ofDatum? {d : Datum} (h : d.Within (2 * maxNesting + 3)) {x : DeliveryDefinition}
    (hx : ofDatum? d = some x) : x.Fits := by
  simp only [ofDatum?, Option.bind_eq_bind, Option.bind_eq_some_iff] at hx
  obtain ⟨f, hf, identifier, hidentifier, location, hlocation, publication, hpublication, parameters, hparameters,
    raw, -, heq⟩ := hx
  cases heq
  obtain ⟨n, hn, hfound⟩ := Datum.within_of_fields? h hf
  obtain ⟨c, hc, hread⟩ := Datum.Fields.need_eq_some hparameters
  obtain ⟨cs, hcs, hmap⟩ := Option.bind_eq_some_iff.1 hread
  obtain ⟨n', hn', hcount, hitems⟩ := Datum.within_of_items? (hfound c hc) hcs
  have hlevel : n' = 2 * maxNesting + 1 := by omega
  subst hlevel
  obtain ⟨hlength, hall⟩ := mapM_eq_some_forall
    (fun x hx y hy => DeliveryParameter.fits_of_ofDatumWithin (hitems x hx) hy) hmap
  exact ⟨Datum.Fields.short_of_need hfound hidentifier, Datum.Fields.short_of_need hfound hlocation,
    Datum.Fields.short_of_need hfound hpublication, hlength ▸ hcount, hall⟩

namespace ParameterMap

theorem put_length_le (k v : String) (es : List (String × String)) : (put k v es).length ≤ es.length + 1 := by
  induction es with
  | nil => simp [put]
  | cons e es ih =>
    rw [put]
    split
    · simp
    · simp
    · simpa using ih

/-- a map has no more entries than were put into it, and only such -/
theorem foldl_insert_sub (es : List (String × String)) (m : ParameterMap) :
    (es.foldl (fun m e => m.insert e.1 e.2) m).entries.length ≤ m.entries.length + es.length ∧
      ∀ e ∈ (es.foldl (fun m e => m.insert e.1 e.2) m).entries, e ∈ m.entries ∨ e ∈ es := by
  induction es generalizing m with
  | nil => exact ⟨Nat.le_refl _, fun e he => Or.inl he⟩
  | cons x xs ih =>
    obtain ⟨hlength, hmem⟩ := ih (m.insert x.1 x.2)
    have hput : (m.insert x.1 x.2).entries.length ≤ m.entries.length + 1 := put_length_le x.1 x.2 m.entries
    refine ⟨?_, fun e he => ?_⟩
    · rw [List.foldl_cons, List.length_cons]
      omega
    · rcases hmem e he with he | he
      · rcases mem_put he with rfl | he
        · exact Or.inr List.mem_cons_self
        · exact Or.inl he
      · exact Or.inr (List.mem_cons_of_mem x he)

theorem fits_of_ofDatum? {depth : Nat} {d : Datum} (h : d.Within depth) {m : ParameterMap} (hm : ofDatum? d = some m) :
    m.entries.length < 2 ^ 32 ∧ ∀ e ∈ m.entries, Short e.1 ∧ Short e.2 := by
  cases d with
  | map es =>
    cases depth with
    | zero => cases h
    | succ n =>
      obtain ⟨ps, hps, rfl⟩ := Option.map_eq_some_iff.1 hm
      have hentry : ∀ e ∈ es, ∀ p, entryOfData? e = some p → Short p.1 ∧ Short p.2 := by
        intro e he p hp
        obtain ⟨k, hk, hp⟩ := Option.bind_eq_some_iff.1 hp
        obtain ⟨v, hv, heq⟩ := Option.bind_eq_some_iff.1 hp
        cases heq
        exact ⟨Datum.short_of_text? (h.2 e he).1 hk, Datum.short_of_text? (h.2 e he).2 hv⟩
      obtain ⟨hlength, hall⟩ := mapM_eq_some_forall hentry hps
      obtain ⟨hcount, hmem⟩ := foldl_insert_sub ps empty
      refine ⟨?_, fun e he => ?_⟩
      · have hes := h.1
        have hempty : empty.entries.length = 0 := rfl
        show (ps.foldl (fun m e => m.insert e.1 e.2) empty).entries.length < 2 ^ 32
        omega
      · rcases hmem e he with he | he
        · cases he
        · exact hall e he
  | _ => cases hm

end ParameterMap

theorem SubscribeOptions.fits_of_ofDatum? {d : Datum} (h : d.Within (2 * maxNesting + 4)) {o : SubscribeOptions}
    (ho : ofDatum? d = some o) : o.Fits := by
  simp only [ofDatum?, Option.bind_eq_bind, Option.bind_eq_some_iff] at ho
  obtain ⟨f, hf, publication, hpublication, time, -, expression, hexpression, language, hlanguage, delivery, hdelivery,
    parameters, hparameters, content, hcontent, heq⟩ := ho
  cases heq
  obtain ⟨n, hn, hfound⟩ := Datum.within_of_fields? h hf
  have hlevel : n = 2 * maxNesting + 3 := by omega
  subst hlevel
  obtain ⟨c, hc, hmap⟩ := Datum.Fields.need_eq_some hparameters
  obtain ⟨hcount, hentries⟩ := ParameterMap.fits_of_ofDatum? (hfound c hc) hmap
  refine ⟨Datum.Fields.short_of_need hfound hpublication, fun s => Datum.Fields.short_of_optional hfound hexpression,
    fun s => Datum.Fields.short_of_optional hfound hlanguage, fun x hx => ?_, hcount, hentries,
    fun s => Datum.Fields.short_of_optional hfound hcontent⟩
  have hx : delivery = some x := hx
  subst hx
  obtain ⟨c, hc, hread⟩ := Datum.Fields.optional_eq_some hdelivery
  exact DeliveryDefinition.fits_of_ofDatum? (hfound c hc) hread

/-- **Decoded records.** A record that is made of what was read can be written again. -/
theorem SubscriptionRecord.fits_of_ofDatum? {d : Datum} (h : d.Within MessagePack.maxDepth) {r : SubscriptionRecord}
    (hr : ofDatum? d = some r) : r.Fits := by
  simp only [ofDatum?, Option.bind_eq_bind, Option.bind_eq_some_iff] at hr
  obtain ⟨f, hf, id, hid, options, hoptions, location, hlocation, heq⟩ := hr
  cases heq
  obtain ⟨n, hn, hfound⟩ := Datum.within_of_fields? h hf
  have hlevel : n = 2 * maxNesting + 4 := by
    have : MessagePack.maxDepth = 2 * maxNesting + 5 := rfl
    omega
  subst hlevel
  obtain ⟨c, hc, hread⟩ := Datum.Fields.need_eq_some hoptions
  exact ⟨Datum.Fields.short_of_need hfound hid, SubscribeOptions.fits_of_ofDatum? (hfound c hc) hread,
    Datum.Fields.short_of_need hfound hlocation⟩

end EventBroker
