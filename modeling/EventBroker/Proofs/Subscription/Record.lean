/-
Records as data, and back.

`SubscriptionRecord.ofDatum?` reads the datum that `toDatum` makes of a record. The datum fits the format of records if
the record does: its texts and lists are not longer than four bytes can tell, and its parameters are nested at most
`maxNesting` deep. Every level of parameters takes two levels of sequences, and four are around the outermost one.
-/
import EventBroker.Proofs.MessagePack.RoundTrip
import EventBroker.Subscription.Record

namespace EventBroker

/-! ## What fits -/

/-- the length of a text in bytes fits in four bytes -/
def Short (s : String) : Prop := (Text.Utf8.bytes s).length < 2 ^ 32

/-- a parameter is nested at most so deep, itself counted -/
def DeliveryParameter.Fits : (depth : Nat) → DeliveryParameter → Prop
  | 0, _ => False
  | depth + 1, p => Short p.space ∧ Short p.element ∧ Short p.value ∧ p.children.length < 2 ^ 32 ∧
      ∀ c ∈ p.children, c.Fits depth

/-- how deep parameters may be nested -/
def maxNesting : Nat := 509

structure DeliveryDefinition.Fits (d : DeliveryDefinition) : Prop where
  identifier : Short d.identifier
  location : Short d.location
  publicationId : Short d.publicationId
  count : d.parameters.length < 2 ^ 32
  parameters : ∀ p ∈ d.parameters, p.Fits maxNesting

structure SubscribeOptions.Fits (o : SubscribeOptions) : Prop where
  publicationIdentifier : Short o.publicationIdentifier
  filterExpression : ∀ s, o.filterExpression = some s → Short s
  filterLanguage : ∀ s, o.filterLanguage = some s → Short s
  delivery : ∀ d, o.delivery = some d → d.Fits
  count : o.deliveryParameters.entries.length < 2 ^ 32
  deliveryParameters : ∀ e ∈ o.deliveryParameters.entries, Short e.1 ∧ Short e.2
  contentType : ∀ s, o.contentType = some s → Short s

structure SubscriptionRecord.Fits (r : SubscriptionRecord) : Prop where
  id : Short r.id
  options : r.options.Fits
  location : Short r.location

/-! ## Parts of data -/

theorem mapM_map_eq_some {α β : Type} {f : β → Option α} {g : α → β} {xs : List α}
    (h : ∀ x ∈ xs, f (g x) = some x) : (xs.map g).mapM f = some xs := by
  induction xs with
  | nil => rfl
  | cons x xs ih =>
    rw [List.map_cons, List.mapM_cons, h x List.mem_cons_self, ih fun y hy => h y (List.mem_cons_of_mem x hy)]
    rfl

theorem option?_optionDatum {α : Type} {g : Datum → Option α} {f : α → Datum} (hnil : ∀ a, f a ≠ .nil)
    {o : Option α} (h : ∀ a, o = some a → g (f a) = some a) : (optionDatum f o).option? g = some o := by
  cases o with
  | none => rfl
  | some a =>
    have hread : (f a).option? g = (g (f a)).map some := by
      cases hf : f a with
      | nil => exact absurd hf (hnil a)
      | _ => rfl
    exact hread.trans (by rw [h a rfl]; rfl)

theorem optionDatum_fits {α : Type} {f : α → Datum} {o : Option α} {depth : Nat}
    (h : ∀ a, o = some a → (f a).Fits depth) : (optionDatum f o).Fits depth := by
  cases o with
  | none => exact Datum.fits_nil depth
  | some a => exact h a rfl

theorem Datum.fits_text {s : String} (h : Short s) (depth : Nat) : (Datum.text s).Fits depth :=
  Datum.Fits.mono (Nat.zero_le depth) (d := .text s) h

theorem Timestamp.toDatum_fits (t : Timestamp) (depth : Nat) : t.toDatum.Fits depth := by
  refine Datum.Fits.mono (Nat.zero_le depth) (d := t.toDatum) ⟨Int64.le_toInt t.micros, ?_⟩
  have := Int64.toInt_lt t.micros
  omega

theorem Timestamp.ofDatum?_toDatum (t : Timestamp) : Timestamp.ofDatum? t.toDatum = some t := by
  have hlo := Int64.le_toInt t.micros
  have hhi := Int64.toInt_lt t.micros
  have hbounds : -0x8000000000000000 ≤ t.micros.toInt ∧ t.micros.toInt < 0x8000000000000000 := ⟨hlo, hhi⟩
  simp only [ofDatum?, toDatum, Datum.signedWord?, Datum.int?, Option.bind_eq_bind, Option.bind_some]
  rw [if_pos hbounds, Int64.ofInt_toInt]
  rfl

/-! ## Parameters -/

namespace DeliveryParameter

theorem listToData_eq_map (ps : List DeliveryParameter) : listToData ps = ps.map toDatum := by
  induction ps with
  | nil => rfl
  | cons p ps ih => rw [listToData, ih, List.map_cons]

theorem ofDatumWithin_toDatum {depth depth' : Nat} (hle : depth ≤ depth') {p : DeliveryParameter}
    (h : p.Fits depth) : ofDatumWithin depth' p.toDatum = some p := by
  induction depth generalizing depth' p with
  | zero => exact False.elim h
  | succ depth ih =>
    obtain ⟨depth', rfl⟩ : ∃ n, depth' = n + 1 := ⟨depth' - 1, by omega⟩
    obtain ⟨-, -, -, -, hchildren⟩ := h
    have hmap : (listToData p.children).mapM (ofDatumWithin depth') = some p.children := by
      rw [listToData_eq_map]
      exact mapM_map_eq_some fun c hc => ih (by omega) (hchildren c hc)
    cases p
    simp [toDatum, ofDatumWithin, Datum.fields?, Datum.Fields.need, Datum.text?, Datum.items?, hmap]

/-- two levels of data for a level of parameters -/
theorem toDatum_fits {depth : Nat} {p : DeliveryParameter} (h : p.Fits depth) : p.toDatum.Fits (2 * depth) := by
  induction depth generalizing p with
  | zero => exact False.elim h
  | succ depth ih =>
    obtain ⟨hspace, helement, hvalue, hcount, hchildren⟩ := h
    cases p
    refine ⟨by simp, fun d hd => ?_⟩
    simp only [List.mem_cons, List.not_mem_nil, or_false] at hd
    rcases hd with rfl | rfl | rfl | rfl
    · exact Datum.fits_text hspace _
    · exact Datum.fits_text helement _
    · exact Datum.fits_text hvalue _
    · rw [listToData_eq_map]
      refine ⟨by rw [List.length_map]; exact hcount, fun d hd => ?_⟩
      obtain ⟨c, hc, rfl⟩ := List.mem_map.1 hd
      exact ih (hchildren c hc)

/-- a datum that fits so many levels, or one more, is made of a parameter that is nested no deeper -/
theorem fits_of_toDatum {depth : Nat} {p : DeliveryParameter} (h : p.toDatum.Fits (2 * depth + 1)) : p.Fits depth := by
  induction depth generalizing p with
  | zero =>
    obtain ⟨space, element, value, children⟩ := p
    exact h.2 (.seq (listToData children)) (by simp)
  | succ depth ih =>
    obtain ⟨space, element, value, children⟩ := p
    obtain ⟨-, hparts⟩ := h
    have hchildren : (Datum.seq (listToData children)).Fits (2 * depth + 2) := hparts _ (by simp)
    rw [listToData_eq_map] at hchildren
    obtain ⟨hcount, hall⟩ := hchildren
    rw [List.length_map] at hcount
    exact ⟨hparts (.text space) (by simp), hparts (.text element) (by simp), hparts (.text value) (by simp), hcount,
      fun c hc => ih (hall c.toDatum (List.mem_map_of_mem hc))⟩

end DeliveryParameter

namespace ParameterMap

/-- an entry behind all others is put at the end -/
theorem put_last (k v : String) {es : List (String × String)} (h : ∀ e ∈ es, compare e.1 k = .lt) :
    put k v es = es ++ [(k, v)] := by
  induction es with
  | nil => rfl
  | cons e es ih =>
    have hgt : compare k e.1 = .gt := Std.OrientedCmp.gt_iff_lt.2 (h e List.mem_cons_self)
    rw [put, hgt]
    exact congrArg (e :: ·) (ih fun f hf => h f (List.mem_cons_of_mem e hf))

theorem foldl_insert_entries (es : List (String × String)) (m : ParameterMap)
    (h : (m.entries ++ es).Pairwise fun a b => compare a.1 b.1 = .lt) :
    (es.foldl (fun m e => m.insert e.1 e.2) m).entries = m.entries ++ es := by
  induction es generalizing m with
  | nil => simp
  | cons e es ih =>
    have hlast : (m.insert e.1 e.2).entries = m.entries ++ [e] := by
      refine put_last e.1 e.2 fun f hf => ?_
      exact (List.pairwise_append.1 h).2.2 f hf e List.mem_cons_self
    have hsplit : (m.insert e.1 e.2).entries ++ es = m.entries ++ e :: es := by rw [hlast, List.append_assoc]; rfl
    rw [List.foldl_cons, ih (m.insert e.1 e.2) (by rw [hsplit]; exact h), hsplit]

theorem ofList_entries (m : ParameterMap) : ofList m.entries = m := by
  have h : (ofList m.entries).entries = m.entries := foldl_insert_entries m.entries empty m.increasing
  cases m
  cases hm : ofList _
  rw [hm] at h
  cases h
  rfl

theorem ofDatum?_toDatum (m : ParameterMap) : ofDatum? m.toDatum = some m := by
  have hmap : (m.entries.map fun e => ((.text e.1, .text e.2) : Datum × Datum)).mapM entryOfData? =
      some m.entries := mapM_map_eq_some fun e _ => rfl
  rw [toDatum, ofDatum?, hmap, Option.map_some, ofList_entries]

theorem toDatum_fits {m : ParameterMap} (hcount : m.entries.length < 2 ^ 32)
    (h : ∀ e ∈ m.entries, Short e.1 ∧ Short e.2) (depth : Nat) : m.toDatum.Fits (depth + 1) := by
  refine ⟨by rw [List.length_map]; exact hcount, fun e he => ?_⟩
  obtain ⟨e, hmem, rfl⟩ := List.mem_map.1 he
  exact ⟨Datum.fits_text (h e hmem).1 depth, Datum.fits_text (h e hmem).2 depth⟩

end ParameterMap

/-! ## Records -/

namespace DeliveryDefinition

theorem ofDatum?_toDatum {d : DeliveryDefinition} (h : d.Fits) : ofDatum? d.toDatum = some d := by
  have hmap : (DeliveryParameter.listToData d.parameters).mapM (DeliveryParameter.ofDatumWithin parameterDepth) =
      some d.parameters := by
    rw [DeliveryParameter.listToData_eq_map]
    exact mapM_map_eq_some fun p hp => DeliveryParameter.ofDatumWithin_toDatum (by decide) (h.parameters p hp)
  simp [toDatum, ofDatum?, Datum.fields?, Datum.Fields.need, Datum.Fields.orElse, Datum.text?, Datum.items?,
    Datum.bool?, hmap]

theorem toDatum_fits_of {d : DeliveryDefinition} (hidentifier : Short d.identifier) (hlocation : Short d.location)
    (hpublication : Short d.publicationId) (hcount : d.parameters.length < 2 ^ 32) {depth : Nat}
    (h : ∀ p ∈ d.parameters, p.Fits depth) : d.toDatum.Fits (2 * depth + 2) := by
  refine ⟨by simp, fun e he => ?_⟩
  simp only [List.mem_cons, List.not_mem_nil, or_false] at he
  rcases he with rfl | rfl | rfl | rfl | rfl
  · exact Datum.fits_text hidentifier _
  · exact Datum.fits_text hlocation _
  · exact Datum.fits_text hpublication _
  · rw [DeliveryParameter.listToData_eq_map]
    refine ⟨by rw [List.length_map]; exact hcount, fun e he => ?_⟩
    obtain ⟨p, hp, rfl⟩ := List.mem_map.1 he
    exact DeliveryParameter.toDatum_fits (h p hp)
  · exact trivial

theorem toDatum_fits {d : DeliveryDefinition} (h : d.Fits) : d.toDatum.Fits (2 * maxNesting + 2) :=
  toDatum_fits_of h.identifier h.location h.publicationId h.count h.parameters

end DeliveryDefinition

namespace SubscribeOptions

theorem ofDatum?_toDatum {o : SubscribeOptions} (h : o.Fits) : ofDatum? o.toDatum = some o := by
  have htime := option?_optionDatum (g := Timestamp.ofDatum?) (f := Timestamp.toDatum) (fun _ h => by cases h)
    (o := o.terminationTime) fun t _ => t.ofDatum?_toDatum
  have htext : ∀ s : Option String, (optionDatum .text s).option? Datum.text? = some s :=
    fun s => option?_optionDatum (fun _ h => by cases h) fun _ _ => rfl
  have hdelivery := option?_optionDatum (g := DeliveryDefinition.ofDatum?) (f := DeliveryDefinition.toDatum)
    (fun _ h => by cases h) (o := o.delivery) fun d hd => DeliveryDefinition.ofDatum?_toDatum (h.delivery d hd)
  simp [toDatum, ofDatum?, Datum.fields?, Datum.Fields.need, Datum.Fields.optional, htime, htext, hdelivery,
    ParameterMap.ofDatum?_toDatum, Datum.text?]

/-- options are nested as deep as the delivery that they name, if the rest of them fits -/
theorem toDatum_fits_of {o : SubscribeOptions} (h : { o with delivery := none }.Fits) {depth : Nat}
    (hdelivery : ∀ d, o.delivery = some d → d.toDatum.Fits (depth + 1)) : o.toDatum.Fits (depth + 2) := by
  refine ⟨by simp, fun e he => ?_⟩
  simp only [List.mem_cons, List.not_mem_nil, or_false] at he
  rcases he with rfl | rfl | rfl | rfl | rfl | rfl | rfl
  · exact Datum.fits_text h.publicationIdentifier _
  · exact optionDatum_fits fun t _ => t.toDatum_fits _
  · exact optionDatum_fits fun s hs => Datum.fits_text (h.filterExpression s hs) _
  · exact optionDatum_fits fun s hs => Datum.fits_text (h.filterLanguage s hs) _
  · exact optionDatum_fits hdelivery
  · exact ParameterMap.toDatum_fits h.count h.deliveryParameters _
  · exact optionDatum_fits fun s hs => Datum.fits_text (h.contentType s hs) _

theorem toDatum_fits {o : SubscribeOptions} (h : o.Fits) : o.toDatum.Fits (2 * maxNesting + 3) :=
  toDatum_fits_of { h with delivery := fun d hd => by cases hd } fun d hd => DeliveryDefinition.toDatum_fits (h.delivery d hd)

end SubscribeOptions

namespace SubscriptionRecord

theorem ofDatum?_toDatum {r : SubscriptionRecord} (h : r.options.Fits) : ofDatum? r.toDatum = some r := by
  simp [toDatum, ofDatum?, Datum.fields?, Datum.Fields.need, Datum.text?,
    SubscribeOptions.ofDatum?_toDatum h]

theorem toDatum_fits_of {r : SubscriptionRecord} (hid : Short r.id) (hlocation : Short r.location) {depth : Nat}
    (hoptions : r.options.toDatum.Fits depth) : r.toDatum.Fits (depth + 1) := by
  refine ⟨by simp, fun e he => ?_⟩
  simp only [List.mem_cons, List.not_mem_nil, or_false] at he
  rcases he with rfl | rfl | rfl
  · exact Datum.fits_text hid _
  · exact hoptions
  · exact Datum.fits_text hlocation _

theorem toDatum_fits {r : SubscriptionRecord} (h : r.Fits) : r.toDatum.Fits (2 * maxNesting + 4) :=
  toDatum_fits_of h.id h.location (SubscribeOptions.toDatum_fits h.options)

/-- a record that fits is read back from its bytes -/
theorem ofDatum?_read {r : SubscriptionRecord} (h : r.Fits) :
    MessagePack.read (MessagePack.write r.toDatum) >>= ofDatum? = some r := by
  have hfits : r.toDatum.Fits MessagePack.maxDepth := Datum.Fits.mono (by decide) (toDatum_fits h)
  rw [MessagePack.read_write hfits]
  exact ofDatum?_toDatum h.options

/-- the limit on parameters is no stricter than that of a reader -/
theorem parameters_fit {r : SubscriptionRecord} (h : r.toDatum.Fits MessagePack.maxDepth) {d : DeliveryDefinition}
    (hd : r.options.delivery = some d) {p : DeliveryParameter} (hp : p ∈ d.parameters) : p.Fits maxNesting := by
  have hoptions : r.options.toDatum.Fits (2 * maxNesting + 4) := h.2 _ (by simp)
  have hdelivery : (optionDatum DeliveryDefinition.toDatum r.options.delivery).Fits (2 * maxNesting + 3) :=
    hoptions.2 _ (by simp)
  rw [hd] at hdelivery
  have hparameters : (Datum.seq (DeliveryParameter.listToData d.parameters)).Fits (2 * maxNesting + 2) :=
    hdelivery.2 _ (by simp)
  rw [DeliveryParameter.listToData_eq_map] at hparameters
  exact DeliveryParameter.fits_of_toDatum (hparameters.2 _ (List.mem_map_of_mem hp))

/-- a record whose parameters are nested deeper, but which fits otherwise, is written and not read back -/
theorem read_eq_none {r : SubscriptionRecord} {n : Nat} (h : r.toDatum.Fits n) {d : DeliveryDefinition}
    (hd : r.options.delivery = some d) {p : DeliveryParameter} (hp : p ∈ d.parameters) (hdeep : ¬ p.Fits maxNesting) :
    MessagePack.read (MessagePack.write r.toDatum) = none :=
  MessagePack.read_write_eq_none h fun hfits => hdeep (parameters_fit hfits hd hp)

/-- id, end and address of a record take no more room than this on top of the options -/
theorem write_toDatum_length_le (o : SubscribeOptions) (id location : String) (t : Option Timestamp) :
    (MessagePack.write (toDatum ⟨id, { o with terminationTime := t }, location⟩)).length ≤
      (MessagePack.write o.toDatum).length + (Text.Utf8.bytes id).length + (Text.Utf8.bytes location).length + 20 := by
  have hid := MessagePack.write_text_length_le id
  have hlocation := MessagePack.write_text_length_le location
  have hend : (MessagePack.write (optionDatum Timestamp.toDatum t)).length ≤ 9 := by
    cases t with
    | none => decide
    | some t => exact MessagePack.writeInt_length_le _
  have hhead : (MessagePack.seqHead (0 + 1 + 1 + 1)).length = 1 := rfl
  simp only [toDatum, SubscribeOptions.toDatum, MessagePack.write, MessagePack.writeItems, List.length_append,
    List.length_cons, List.length_nil] at hid hlocation ⊢
  omega

end SubscriptionRecord

end EventBroker
