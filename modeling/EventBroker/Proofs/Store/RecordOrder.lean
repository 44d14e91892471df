/-
Record files, in whatever order the delivery parameters are written.

A map of texts has no order of its own, and a writer may put its entries in any. So a subscription has as many files as
its map has orders, and `RecordFile.encode` writes one of them.

- `Told`: a file is able to tell a record. No text, list or map is longer than the field of its length can say, and
  nothing is nested deeper than a reader of MessagePack enters.
- `ofDatum?_datumOf`: a map is read from its entries, however they are ordered.
- `decode_encodeIn`: every file of a record that can be told is read back as that record.
- `written_told_apart`: so a file has the id, the options and the address of its subscription, and no other
  subscription has that file.
-/
import Mathlib.Data.List.Sort
import EventBroker.Proofs.Store.RecordFile
import EventBroker.Proofs.Store.Limits

namespace EventBroker

/-! ## Maps -/

namespace ParameterMap

/-- entries as they are written, in their order -/
def datumOf (es : List (String × String)) : Datum := .map (es.map fun e => (.text e.1, .text e.2))

theorem keys_nodup (m : ParameterMap) : (m.entries.map Prod.fst).Nodup := by
  refine List.pairwise_map.2 (m.increasing.imp ?_)
  intro a b hlt heq
  have hsame : compare a.1 b.1 = .eq := heq ▸ Std.ReflCmp.compare_self
  cases hlt.symm.trans hsame

/-- an entry with a new name is one more entry, wherever it is put -/
theorem put_perm {k v : String} {es : List (String × String)} (h : ∀ e ∈ es, e.1 ≠ k) :
    (put k v es).Perm ((k, v) :: es) := by
  induction es with
  | nil => exact .refl _
  | cons e es ih =>
    have hhead : e.1 ≠ k := h e List.mem_cons_self
    have htail : (put k v es).Perm ((k, v) :: es) := ih fun x hx => h x (List.mem_cons_of_mem e hx)
    cases hc : compare k e.1 with
    | lt => simp [put, hc]
    | eq => exact absurd (Std.LawfulEqCmp.eq_of_compare hc).symm hhead
    | gt =>
      simp only [put, hc]
      exact (htail.cons e).trans (.swap (k, v) e es)

theorem foldl_insert_perm (es : List (String × String)) (m : ParameterMap)
    (h : ((m.entries ++ es).map Prod.fst).Nodup) :
    (es.foldl (fun m e => m.insert e.1 e.2) m).entries.Perm (m.entries ++ es) := by
  induction es generalizing m with
  | nil => simp
  | cons e es ih =>
    have hnew : ∀ x ∈ m.entries, x.1 ≠ e.1 := by
      intro x hx heq
      rw [List.map_append, List.nodup_append] at h
      exact h.2.2 x.1 (List.mem_map_of_mem hx) e.1 (by simp) heq
    have hput : (m.insert e.1 e.2).entries.Perm (e :: m.entries) := put_perm hnew
    have hmoved : ((m.insert e.1 e.2).entries ++ es).Perm (m.entries ++ e :: es) :=
      (hput.append_right es).trans List.perm_middle.symm
    have hkeys : (((m.insert e.1 e.2).entries ++ es).map Prod.fst).Nodup := (hmoved.map Prod.fst).nodup_iff.2 h
    exact (ih (m.insert e.1 e.2) hkeys).trans hmoved

/-- entries in increasing order have no other order that increases -/
theorem eq_of_perm {m m' : ParameterMap} (h : m.entries.Perm m'.entries) : m = m' := by
  have hentries : m.entries = m'.entries := by
    refine h.eq_of_pairwise ?_ m.increasing m'.increasing
    intro a b _ _ hab hba
    have hgt : compare a.1 b.1 = .gt := Std.OrientedCmp.gt_iff_lt.2 hba
    cases hab.symm.trans hgt
  cases m
  cases m'
  cases hentries
  rfl

theorem ofList_of_perm {m : ParameterMap} {es : List (String × String)} (h : es.Perm m.entries) : ofList es = m := by
  have hkeys : (es.map Prod.fst).Nodup := (h.map Prod.fst).nodup_iff.2 m.keys_nodup
  exact eq_of_perm ((foldl_insert_perm es empty hkeys).trans h)

/-- a map is read from its entries in any order -/
theorem ofDatum?_datumOf {m : ParameterMap} {es : List (String × String)} (h : es.Perm m.entries) :
    ofDatum? (datumOf es) = some m := by
  have hmap : (es.map fun e => ((.text e.1, .text e.2) : Datum × Datum)).mapM entryOfData? = some es :=
    mapM_map_eq_some fun e _ => rfl
  rw [datumOf, ofDatum?, hmap, Option.map_some, ofList_of_perm h]

theorem datumOf_fits {es es' : List (String × String)} (h : es'.Perm es) {depth : Nat} (hfits : (datumOf es).Fits depth) :
    (datumOf es').Fits depth := by
  cases depth with
  | zero => exact hfits
  | succ depth =>
    have hmap := h.map fun e => ((.text e.1, .text e.2) : Datum × Datum)
    exact ⟨hmap.length_eq ▸ hfits.1, fun e he => hfits.2 e (hmap.mem_iff.1 he)⟩

end ParameterMap

/-- a sequence fits if another one of that length does that has, for each of its items, one that asks for more -/
theorem Datum.Fits.seq_of {ds ds' : List Datum} {depth : Nat} (h : (Datum.seq ds).Fits depth)
    (hlength : ds'.length = ds.length) (hitems : ∀ d' ∈ ds', ∃ d ∈ ds, ∀ n, d.Fits n → d'.Fits n) :
    (Datum.seq ds').Fits depth := by
  cases depth with
  | zero => exact h
  | succ depth =>
    refine ⟨hlength ▸ h.1, ?_⟩
    intro d' hd'
    obtain ⟨d, hd, hfits⟩ := hitems d' hd'
    exact hfits depth (h.2 d hd)

/-- the order of entries does not change how much room they take -/
theorem MessagePack.writeEntries_length {es es' : List (Datum × Datum)} (h : es'.Perm es) :
    (writeEntries es').length = (writeEntries es).length := by
  induction h with
  | nil => rfl
  | cons e _ ih => simp [writeEntries, ih]
  | swap e f es => simp [writeEntries]; omega
  | trans _ _ ih ih' => exact ih.trans ih'

/-! ## Records -/

namespace SubscribeOptions

/-- options as they are written with their delivery parameters in this order -/
def toDatumIn (order : List (String × String)) (o : SubscribeOptions) : Datum :=
  .seq [.text o.publicationIdentifier, optionDatum Timestamp.toDatum o.terminationTime,
    optionDatum .text o.filterExpression, optionDatum .text o.filterLanguage,
    optionDatum DeliveryDefinition.toDatum o.delivery, ParameterMap.datumOf order, optionDatum .text o.contentType]

variable {o : SubscribeOptions} {order : List (String × String)}

theorem ofDatum?_toDatumIn (h : o.Fits) (horder : order.Perm o.deliveryParameters.entries) :
    ofDatum? (o.toDatumIn order) = some o := by
  have htime := option?_optionDatum (g := Timestamp.ofDatum?) (f := Timestamp.toDatum) (fun _ h => by cases h)
    (o := o.terminationTime) fun t _ => t.ofDatum?_toDatum
  have htext : ∀ s : Option String, (optionDatum .text s).option? Datum.text? = some s :=
    fun s => option?_optionDatum (fun _ h => by cases h) fun _ _ => rfl
  have hdelivery := option?_optionDatum (g := DeliveryDefinition.ofDatum?) (f := DeliveryDefinition.toDatum)
    (fun _ h => by cases h) (o := o.delivery) fun d hd => DeliveryDefinition.ofDatum?_toDatum (h.delivery d hd)
  simp [toDatumIn, ofDatum?, Datum.fields?, Datum.Fields.need, Datum.Fields.optional, htime, htext, hdelivery,
    ParameterMap.ofDatum?_datumOf horder, Datum.text?]

theorem toDatumIn_fits (horder : order.Perm o.deliveryParameters.entries) {depth : Nat} (h : o.toDatum.Fits depth) :
    (o.toDatumIn order).Fits depth := by
  refine Datum.Fits.seq_of h rfl ?_
  intro d hd
  simp only [List.mem_cons, List.not_mem_nil, or_false] at hd
  rcases hd with rfl | rfl | rfl | rfl | rfl | rfl | rfl
  case inr.inr.inr.inr.inr.inl =>
    exact ⟨o.deliveryParameters.toDatum, by simp, fun n hn => ParameterMap.datumOf_fits horder hn⟩
  all_goals exact ⟨_, by simp, fun n hn => hn⟩

end SubscribeOptions

namespace SubscriptionRecord

def toDatumIn (order : List (String × String)) (r : SubscriptionRecord) : Datum :=
  .seq [.text r.id, r.options.toDatumIn order, .text r.location]

variable {r : SubscriptionRecord} {order : List (String × String)}

theorem toDatumIn_fits (horder : order.Perm r.options.deliveryParameters.entries) {depth : Nat}
    (h : r.toDatum.Fits depth) : (r.toDatumIn order).Fits depth := by
  refine Datum.Fits.seq_of h rfl ?_
  intro d hd
  simp only [List.mem_cons, List.not_mem_nil, or_false] at hd
  rcases hd with rfl | rfl | rfl
  · exact ⟨_, by simp, fun n hn => hn⟩
  · exact ⟨r.options.toDatum, by simp, fun n hn => SubscribeOptions.toDatumIn_fits horder hn⟩
  · exact ⟨_, by simp, fun n hn => hn⟩

/-- the orders of a record take the same room -/
theorem write_toDatumIn_length (horder : order.Perm r.options.deliveryParameters.entries) :
    (MessagePack.write (r.toDatumIn order)).length = (MessagePack.write r.toDatum).length := by
  have hmap := horder.map fun e => ((.text e.1, .text e.2) : Datum × Datum)
  have hentries := MessagePack.writeEntries_length hmap
  have hlength := hmap.length_eq
  simp only [toDatumIn, toDatum, SubscribeOptions.toDatumIn, SubscribeOptions.toDatum, ParameterMap.datumOf,
    ParameterMap.toDatum, MessagePack.write, MessagePack.writeItems, List.length_append, List.length_cons,
    List.length_nil, hentries, hlength]

/-- what a datum that fits a reader was made of -/
theorem fits_of_toDatum (h : r.toDatum.Fits MessagePack.maxDepth) : r.Fits := by
  have hoptions : r.options.toDatum.Fits (2 * maxNesting + 4) := h.2 _ (by simp)
  have hsome : ∀ {f : Option String}, (optionDatum .text f).Fits (2 * maxNesting + 3) → ∀ s, f = some s → Short s := by
    intro f hf s hs
    rw [hs] at hf
    exact hf
  have hmap : r.options.deliveryParameters.toDatum.Fits (2 * maxNesting + 3) := hoptions.2 _ (by simp)
  obtain ⟨hcount, hentries⟩ := hmap
  refine ⟨h.2 (.text r.id) (by simp), ?_, h.2 (.text r.location) (by simp)⟩
  refine ⟨hoptions.2 (.text r.options.publicationIdentifier) (by simp), hsome (hoptions.2 _ (by simp)),
    hsome (hoptions.2 _ (by simp)), ?_, ?_, ?_, hsome (hoptions.2 _ (by simp))⟩
  · intro d hd
    have hdelivery : (optionDatum DeliveryDefinition.toDatum r.options.delivery).Fits (2 * maxNesting + 3) :=
      hoptions.2 _ (by simp)
    rw [hd] at hdelivery
    have hparameters : (Datum.seq (DeliveryParameter.listToData d.parameters)).Fits (2 * maxNesting + 2) :=
      hdelivery.2 _ (by simp)
    have hlength := hparameters.1
    rw [DeliveryParameter.listToData_eq_map, List.length_map] at hlength
    exact ⟨hdelivery.2 (.text d.identifier) (by simp), hdelivery.2 (.text d.location) (by simp),
      hdelivery.2 (.text d.publicationId) (by simp), hlength, fun p hp => parameters_fit h hd hp⟩
  · simpa using hcount
  · intro e he
    exact hentries (.text e.1, .text e.2) (List.mem_map_of_mem he)

end SubscriptionRecord

/-! ## Files -/

namespace RecordFile

/-- a file of a record, with the delivery parameters in this order -/
def encodeIn (order : List (String × String)) (r : SubscriptionRecord) : List UInt8 :=
  wrap (MessagePack.write (r.toDatumIn order))

theorem encode_eq_encodeIn (r : SubscriptionRecord) : encode r = encodeIn r.options.deliveryParameters.entries r := rfl

/-- A file is able to tell the record. The lengths of texts, lists and maps have four bytes at most, that of the whole
record has eight, and a reader enters `MessagePack.maxDepth` levels. -/
structure Told (r : SubscriptionRecord) : Prop where
  fits : r.toDatum.Fits MessagePack.maxDepth
  length : (MessagePack.write r.toDatum).length < 2 ^ 64

theorem decode_encodeIn {r : SubscriptionRecord} (h : Told r) {order : List (String × String)}
    (horder : order.Perm r.options.deliveryParameters.entries) : decode (encodeIn order r) = .ok r := by
  have hlength : (MessagePack.write (r.toDatumIn order)).length < 2 ^ 64 := by
    rw [SubscriptionRecord.write_toDatumIn_length horder]
    exact h.length
  have hread : MessagePack.read (MessagePack.write (r.toDatumIn order)) = some (r.toDatumIn order) :=
    MessagePack.read_write (SubscriptionRecord.toDatumIn_fits horder h.fits)
  have hrecord : SubscriptionRecord.ofDatum? (r.toDatumIn order) = some r := by
    have hoptions := SubscribeOptions.ofDatum?_toDatumIn (SubscriptionRecord.fits_of_toDatum h.fits).options horder
    simp [SubscriptionRecord.toDatumIn, SubscriptionRecord.ofDatum?, Datum.fields?, Datum.Fields.need, Datum.text?,
      hoptions]
  unfold decode encodeIn
  rw [payload_wrap hlength]
  simp only [bind, Except.bind, hread, Option.bind_some, hrecord]
  rfl

end RecordFile

/-- the bytes are a file of the subscription, its delivery parameters in some order -/
def Subscription.WrittenAs (s : Subscription) (bytes : List UInt8) : Prop :=
  ∃ order : List (String × String), order.Perm s.options.deliveryParameters.entries ∧
    bytes = RecordFile.encodeIn order s.toRecord

theorem Subscription.writtenAs_encode (s : Subscription) : s.WrittenAs (RecordFile.encode s.toRecord) :=
  ⟨s.options.deliveryParameters.entries, .refl _, RecordFile.encode_eq_encodeIn _⟩

/-- **Round trip and distinction.** From every file of a subscription that a file is able to tell, in whatever order its
delivery parameters were written, a subscription is read that has the same id, the same options and the same address;
and no subscription that differs in one of these has the same file. A file tells texts, lists and maps of fewer than
`2 ^ 32` bytes or entries, the most that a length of MessagePack says, and parameters nested as deep as its reader
enters. -/
theorem Subscription.written_told_apart {s : Subscription} (hs : RecordFile.Told s.toRecord) {bytes : List UInt8}
    (hbytes : s.WrittenAs bytes) :
    (∃ t, (RecordFile.decode bytes).map Subscription.ofRecord = .ok t ∧ t.id = s.id ∧ t.options = s.options ∧
      t.location = s.location) ∧
    ∀ s' : Subscription, RecordFile.Told s'.toRecord →
      s'.id ≠ s.id ∨ s'.options ≠ s.options ∨ s'.location ≠ s.location → ¬ s'.WrittenAs bytes := by
  obtain ⟨order, horder, rfl⟩ := hbytes
  have hdecode := RecordFile.decode_encodeIn hs horder
  constructor
  · exact ⟨.ofRecord s.toRecord, by rw [hdecode]; rfl, rfl, rfl, rfl⟩
  · rintro s' hs' hdiffer ⟨order', horder', hsame⟩
    have hrecord : s.toRecord = s'.toRecord := by
      rw [hsame, RecordFile.decode_encodeIn hs' horder'] at hdecode
      exact (Except.ok.inj hdecode).symm
    rcases hdiffer with hid | hoptions | hlocation
    · exact hid (congrArg SubscriptionRecord.id hrecord).symm
    · exact hoptions (congrArg SubscriptionRecord.options hrecord).symm
    · exact hlocation (congrArg SubscriptionRecord.location hrecord).symm

/-- a subscription with two delivery parameters, and with parameters nested as deep as a reader enters -/
def Subscription.brimful (t : Option Timestamp) : Subscription :=
  ⟨"s", ⟨"weather", t, none, none, some ⟨"local", "alerts", "weather", [.nested (maxNesting - 1)], false⟩,
    .ofList [("a", "1"), ("b", "2")], none⟩, .detached "local:alerts"⟩

theorem Subscription.brimful_told (t : Option Timestamp) : RecordFile.Told (brimful t).toRecord := by
  have hshort : ∀ x ∈ ["s", "weather", "local", "alerts", "local:alerts", "a", "b", "1", "2"], Short x := by
    unfold Short
    decide
  have hnested : (DeliveryParameter.nested (maxNesting - 1)).Fits maxNesting :=
    DeliveryParameter.nested_fits_iff.2 (by decide)
  have hdelivery : DeliveryDefinition.Fits ⟨"local", "alerts", "weather", [.nested (maxNesting - 1)], false⟩ :=
    ⟨hshort _ (by simp), hshort _ (by simp), hshort _ (by simp), by simp, fun p hp => List.mem_singleton.1 hp ▸ hnested⟩
  have hentries : (ParameterMap.ofList [("a", "1"), ("b", "2")]).entries = [("a", "1"), ("b", "2")] := by decide
  have hcount : (ParameterMap.ofList [("a", "1"), ("b", "2")]).entries.length < 2 ^ 32 := by decide
  have hparameters : ∀ e ∈ (ParameterMap.ofList [("a", "1"), ("b", "2")]).entries, Short e.1 ∧ Short e.2 := by
    rw [hentries]
    intro e he
    simp only [List.mem_cons, List.not_mem_nil, or_false] at he
    rcases he with rfl | rfl
    · exact ⟨hshort "a" (by simp), hshort "1" (by simp)⟩
    · exact ⟨hshort "b" (by simp), hshort "2" (by simp)⟩
  have hoptions : (brimful t).options.Fits :=
    ⟨hshort "weather" (by simp), nofun, nofun, fun d hd => Option.some.inj hd ▸ hdelivery, hcount, hparameters,
      nofun⟩
  have hroom : (MessagePack.write (brimful none).options.toDatum).length < 2 ^ 63 := by
    simp only [brimful, SubscribeOptions.toDatum, optionDatum, DeliveryDefinition.toDatum, DeliveryParameter.listToData,
      MessagePack.write, MessagePack.writeItems, List.length_append, DeliveryParameter.write_nested_length]
    decide
  have hrest := SubscriptionRecord.write_toDatum_length_le (brimful none).options "s" "local:alerts" t
  have hid : (Text.Utf8.bytes "s").length + (Text.Utf8.bytes "local:alerts").length = 13 := by decide
  constructor
  · exact Datum.Fits.mono (by decide) (SubscriptionRecord.toDatum_fits
      ⟨hshort "s" (by simp), hoptions, hshort "local:alerts" (by simp)⟩)
  · refine Nat.lt_of_le_of_lt hrest ?_
    omega

/-- the file with the entries of the map the other way round; a subscription with another end does not have it -/
theorem Subscription.brimful_told_apart :
    let bytes := RecordFile.encodeIn [("b", "2"), ("a", "1")] (brimful none).toRecord
    (∃ t, (RecordFile.decode bytes).map Subscription.ofRecord = .ok t ∧ t.id = "s" ∧ t.options = (brimful none).options ∧
      t.location = "local:alerts") ∧ ¬ (brimful (some ⟨5⟩)).WrittenAs bytes := by
  intro bytes
  have horder : [("b", "2"), ("a", "1")].Perm (brimful none).options.deliveryParameters.entries := by decide
  have hboth := written_told_apart (brimful_told none) ⟨_, horder, rfl⟩
  exact ⟨hboth.1, hboth.2 (brimful (some ⟨5⟩)) (brimful_told _) (Or.inr (Or.inl (by decide)))⟩

end EventBroker
