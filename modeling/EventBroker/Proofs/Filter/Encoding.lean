/-
How a message is encoded does not matter.

A text can come as a text, as its bytes or as a document that is printed so. All three make events of the same text with
the same bodies (`Message.Encodes`), and filters that search texts, or that let everything pass, cannot tell them apart
(`Rule.JudgesText`). So the same rules match and the same bodies are delivered to the same endpoints; only the content
type of deliveries as they came tells which encoding it was.

- `Message.reads`: a message makes an event just if its bytes are a text, and then that text is the event's.
- `Switchboard.run_judgesText`: of every run, all rules judge texts.
- `Engine.calls_alike`, `Engine.applyAll_alike`: two events that are alike lead to deliveries that are alike.
- `Switchboard.encoding_immaterial` puts them together.
-/
import EventBroker.Proofs.Delivery.Alike
import EventBroker.Proofs.Filter.Dispatch

namespace EventBroker

/-! ## Reading messages -/

theorem Text.Utf8.isSome_text? (b : List UInt8) : (text? b).isSome ↔ ByteArray.IsValidUTF8 ⟨b.toArray⟩ := by
  unfold text? String.fromUTF8?
  split
  · rename_i h
    simp [h]
  · rename_i h
    simp [h]

/-- the bytes of a message are a text -/
def Message.IsText (m : Message) : Prop := ByteArray.IsValidUTF8 ⟨m.toBytes.toArray⟩

/-- the message is one of the encodings of a text -/
def Message.Encodes (t : String) : Message → Prop
  | .text s => s = t
  | .bytes b => b = Text.Utf8.bytes t
  | .document v => v.render = t

namespace Message

variable {m : Message} {t : String}

theorem Encodes.toBytes_eq (h : m.Encodes t) : m.toBytes = Text.Utf8.bytes t := by
  cases m with
  | text s => exact congrArg Text.Utf8.bytes h
  | bytes b => exact h
  | document v => exact congrArg Text.Utf8.bytes h

theorem Encodes.isText (h : m.Encodes t) : m.IsText := by
  unfold IsText
  rw [h.toBytes_eq, ← Text.Utf8.isSome_text?, Text.Utf8.text?_bytes]
  rfl

/-- a message whose bytes are a text encodes what it reads as -/
theorem IsText.encodes (h : m.IsText) : m.Encodes m.toText := by
  cases m with
  | text s => rfl
  | bytes b =>
    obtain ⟨s, hs⟩ := Option.isSome_iff_exists.1 ((Text.Utf8.isSome_text? b).2 h)
    have hlossy : Text.Utf8.lossy b = s := by
      unfold Text.Utf8.lossy
      rw [hs]
    show b = Text.Utf8.bytes (Text.Utf8.lossy b)
    rw [hlossy, Text.Utf8.bytes_of_text? hs]
  | document v => rfl

theorem Encodes.supports (h : m.Encodes t) : Transformer.standard.supports m = true := by
  cases m with
  | text s => rfl
  | bytes b => exact (Text.Utf8.isSome_text? b).2 h.isText
  | document v => rfl

/-- the event of an encoding has the text that is encoded -/
theorem Encodes.transform (h : m.Encodes t) (now : Timestamp) :
    ∃ document, Transformer.standard.transform m now = .ok ⟨m, t, document, now⟩ := by
  cases m with
  | text s =>
    cases h
    exact ⟨_, rfl⟩
  | bytes b =>
    cases h
    refine ⟨Transformer.document? t, ?_⟩
    simp only [Transformer.standard, Text.Utf8.text?_bytes]
  | document v =>
    cases h
    exact ⟨_, rfl⟩

/-- encodings of one text make payloads that are alike -/
theorem Encodes.alike {m' : Message} (h : m.Encodes t) (h' : m'.Encodes t) : Payload.Alike ⟨m, t⟩ ⟨m', t⟩ := by
  refine ⟨rfl, fun raw => ?_⟩
  cases raw with
  | false => rfl
  | true => exact h'.toBytes_eq.trans h.toBytes_eq.symm

theorem not_supports (h : ¬ m.IsText) :
    Transformer.standard.supports m = false ∧ ∀ now, ∃ e, Transformer.standard.transform m now = .error e := by
  cases m with
  | text s => exact absurd (show Encodes s (.text s) from rfl).isText h
  | bytes b =>
    have hnone : Text.Utf8.text? b = none := by
      rw [← Option.not_isSome_iff_eq_none, Text.Utf8.isSome_text?]
      exact h
    refine ⟨?_, fun now => ⟨.transformation ((Text.Utf8.firstFault b).getD ""), ?_⟩⟩
    · show (Text.Utf8.text? b).isSome = false
      rw [hnone]
      rfl
    · simp only [Transformer.standard, hnone]
  | document v => exact absurd (show Encodes v.render (.document v) from rfl).isText h

/-- how a message is read: it is supported and makes an event just if its bytes are a text, and then the event has that
text, and both bodies are these bytes -/
structure Reads (m : Message) (now : Timestamp) : Prop where
  supports : Transformer.standard.supports m = true ↔ m.IsText
  transforms : (∃ event, Transformer.standard.transform m now = .ok event) ↔ m.IsText
  text : ∀ event, Transformer.standard.transform m now = .ok event →
    event.text = m.toText ∧ ∀ raw, (Payload.ofEvent event).body raw = m.toBytes

theorem reads (m : Message) (now : Timestamp) : m.Reads now := by
  by_cases h : m.IsText
  · obtain ⟨document, hevent⟩ := h.encodes.transform now
    refine ⟨iff_of_true h.encodes.supports h, iff_of_true ⟨_, hevent⟩ h, fun event hok => ?_⟩
    rw [hevent] at hok
    cases hok
    refine ⟨rfl, fun raw => ?_⟩
    cases raw with
    | false => exact h.encodes.toBytes_eq.symm
    | true => rfl
  · obtain ⟨hsupports, hfails⟩ := not_supports h
    obtain ⟨e, he⟩ := hfails now
    have hnever : ∀ event, Transformer.standard.transform m now ≠ .ok event := by
      intro event hok
      rw [he] at hok
      cases hok
    refine ⟨iff_of_false (by simp [hsupports]) h, iff_of_false ?_ h, fun event hok => absurd hok (hnever event)⟩
    rintro ⟨event, hok⟩
    exact hnever event hok

end Message

/-! ## Rules that judge texts -/

/-- whether a rule matches depends on the text of an event only -/
def Rule.JudgesText (r : Rule) : Prop := ∀ event event' : Event, event'.text = event.text →
  r.predicate event' = r.predicate event

theorem Compiler.regex_eq_ok {expression : String} {language : Option String} {p : Predicate}
    (h : Compiler.regex expression language = .ok p) : ∃ r, p = Predicate.search r := by
  have hcompile : ∀ {q}, Compiler.regex.compile expression = .ok q → ∃ r, q = Predicate.search r := by
    intro q hq
    unfold Compiler.regex.compile at hq
    split at hq
    · cases hq
      exact ⟨_, rfl⟩
    · cases hq
  unfold Compiler.regex at h
  split at h
  · exact hcompile h
  · split at h
    · exact hcompile h
    · cases h

theorem Engine.ruleFor_judgesText {e : Engine} (he : e.compiler = Compiler.regex) {s : Subscription}
    {endpoint : Endpoint} {r : Rule} (h : e.ruleFor s endpoint = .ok r) : r.JudgesText := by
  unfold ruleFor at h
  cases hc : e.compile s.options with
  | error f =>
    rw [hc] at h
    cases h
  | ok p =>
    rw [hc] at h
    cases h
    unfold compile at hc
    rw [he] at hc
    split at hc
    · cases hc
      exact fun _ _ _ => rfl
    · split at hc
      · rename_i hregex
        cases hc
        obtain ⟨re, rfl⟩ := Compiler.regex_eq_ok hregex
        intro event event' hsame
        exact congrArg (fun text => Verdict.ofBool (re.isMatch text)) hsame
      · cases hc

/-- whatever was done with an engine, its rules judge texts -/
theorem Switchboard.run_judgesText (t : Transformer) (h : Hub) (us : List Use) :
    ∀ r ∈ ((start Compiler.regex t h).run us).engine.rules.values, r.JudgesText := by
  intro r hr
  obtain ⟨-, -, -, hrules⟩ := run_rules Compiler.regex t h us
  obtain ⟨before, s, endpoint, after, -, hfor, -⟩ := (hrules r).1 hr
  exact Engine.ruleFor_judgesText rfl hfor

/-! ## Deliveries that are alike -/

/-- the same delivery, of payloads that are alike; messages as they came may have content types of their own -/
structure Call.Alike (c c' : Call) : Prop where
  rule : c'.rule = c.rule
  endpoint : c'.endpoint = c.endpoint
  raw : c'.raw = c.raw
  payload : c.payload.Alike c'.payload
  contentType : c.raw = false → c'.payload.contentType c'.raw = c.payload.contentType c.raw

namespace Engine

variable {event event' : Event}

theorem apply_alike {r : Rule} (hr : r.predicate event' = r.predicate event)
    (hp : (Payload.ofEvent event).Alike (Payload.ofEvent event')) {h h' : Hub} (ha : h.Alike h') (hi : h.Impartial) :
    (apply r event' h').1 = (apply r event h).1 ∧ (apply r event h).2.Alike (apply r event' h').2 ∧
      (apply r event h).2.Impartial := by
  unfold apply
  rw [hr]
  split
  · obtain ⟨hsame, halike⟩ := Hub.deliver_alike ha hi hp r.endpoint r.raw
    exact ⟨hsame, halike, hi.deliver r.endpoint _ r.raw⟩
  · exact ⟨rfl, ha, hi⟩

/-- rule by rule, as many deliveries are done, and the hubs stay alike -/
theorem applyAll_alike {rs : List Rule} (hrs : ∀ r ∈ rs, r.predicate event' = r.predicate event)
    (hp : (Payload.ofEvent event).Alike (Payload.ofEvent event')) {h h' : Hub} (ha : h.Alike h') (hi : h.Impartial) :
    (applyAll event' rs h').1 = (applyAll event rs h).1 ∧
      (applyAll event rs h).2.Alike (applyAll event' rs h').2 := by
  induction rs generalizing h h' with
  | nil => exact ⟨rfl, ha⟩
  | cons r rs ih =>
    obtain ⟨hdone, halike, himpartial⟩ := apply_alike (hrs r List.mem_cons_self) hp ha hi
    obtain ⟨hcount, hend⟩ := ih (fun r' hr' => hrs r' (List.mem_cons_of_mem r hr')) halike himpartial
    simp only [applyAll, hdone, hcount]
    exact ⟨trivial, hend⟩

theorem calls_alike {rs : List Rule} (hrs : ∀ r ∈ rs, r.predicate event' = r.predicate event)
    (hp : (Payload.ofEvent event).Alike (Payload.ofEvent event')) :
    List.Forall₂ Call.Alike (calls event rs) (calls event' rs) := by
  have hfilter : rs.filter (Rule.passes event') = rs.filter (Rule.passes event) := by
    refine List.filter_congr fun r hr => ?_
    unfold Rule.passes
    rw [hrs r hr]
  unfold calls
  rw [hfilter, List.forall₂_map_left_iff, List.forall₂_map_right_iff, List.forall₂_same]
  refine fun r _ => ⟨rfl, rfl, rfl, hp, fun hraw => ?_⟩
  have hform : r.raw = false := hraw
  simp [Rule.call, Payload.contentType, hform]

/-- rules cannot tell two events apart. In this order they ask for the same deliveries, of payloads that are alike; and
if the endpoints answer alike, as those do that do not mind content types, as many deliveries are done -/
structure SameRouting (rs : List Rule) (event event' : Event) : Prop where
  matching : ∀ r ∈ rs, r.predicate event' = r.predicate event
  calls : List.Forall₂ Call.Alike (calls event rs) (calls event' rs)
  answers : ∀ h h' : Hub, (h'.deliverAll (Engine.calls event' rs)).1.map Reply.isDone =
      (h.deliverAll (Engine.calls event rs)).1.map Reply.isDone →
    (applyAll event' rs h').1 = (applyAll event rs h).1
  impartial : ∀ h h' : Hub, h.Impartial → h.Alike h' →
    (applyAll event' rs h').1 = (applyAll event rs h).1 ∧
      (applyAll event rs h).2.Alike (applyAll event' rs h').2

theorem applyAll_answers {rs : List Rule} {h h' : Hub} (hsame : (h'.deliverAll (calls event' rs)).1.map Reply.isDone =
    (h.deliverAll (calls event rs)).1.map Reply.isDone) : (applyAll event' rs h').1 = (applyAll event rs h).1 := by
  have hcount (replies : List Reply) : replies.countP Reply.isDone = (replies.map Reply.isDone).countP id := by
    rw [List.countP_map, Function.id_comp]
  rw [applyAll_eq_deliverAll, applyAll_eq_deliverAll, hcount, hcount, hsame]

theorem sameRouting {rs : List Rule} (hrs : ∀ r ∈ rs, r.JudgesText)
    (hp : (Payload.ofEvent event).Alike (Payload.ofEvent event')) : SameRouting rs event event' := by
  have hpredicate : ∀ r ∈ rs, r.predicate event' = r.predicate event := fun r hr => hrs r hr event event' hp.text
  exact ⟨hpredicate, calls_alike hpredicate hp, fun h h' => applyAll_answers,
    fun h h' hi ha => applyAll_alike hpredicate hp ha hi⟩

end Engine

namespace Switchboard

/-- two messages make events that go the same way, whatever the order that the rules are asked in -/
structure SameWay (b : Switchboard) (t : String) (m m' : Message) (now now' : Timestamp) : Prop where
  events : ∃ event event', b.engine.event? m now = some event ∧ b.engine.event? m' now' = some event' ∧
    Payload.ofEvent event = ⟨m, t⟩ ∧ Payload.ofEvent event' = ⟨m', t⟩ ∧
    ∀ order, order.Perm b.engine.rules.values → Engine.SameRouting order event event'
  answer : b.hub.Impartial → (b.step (.receive m' now')).1 = (b.step (.receive m now)).1 ∧
    (b.step (.receive m now)).2.hub.Alike (b.step (.receive m' now')).2.hub

theorem event?_of_encodes {e : Engine} (he : e.transformer = Transformer.standard) {t : String} {m : Message}
    (h : m.Encodes t) (now : Timestamp) : ∃ event, e.event? m now = some event ∧ Payload.ofEvent event = ⟨m, t⟩ := by
  obtain ⟨document, hevent⟩ := h.transform now
  refine ⟨⟨m, t, document, now⟩, ?_, rfl⟩
  unfold Engine.event?
  rw [he, h.supports, hevent]
  rfl

theorem sameWay_of_encodes {b : Switchboard} (htransformer : b.engine.transformer = Transformer.standard)
    (hrules : ∀ r ∈ b.engine.rules.values, r.JudgesText) {t : String} {m m' : Message} (hm : m.Encodes t)
    (hm' : m'.Encodes t) (now now' : Timestamp) : b.SameWay t m m' now now' := by
  obtain ⟨event, hevent, hpayload⟩ := event?_of_encodes htransformer hm now
  obtain ⟨event', hevent', hpayload'⟩ := event?_of_encodes htransformer hm' now'
  have halike : (Payload.ofEvent event).Alike (Payload.ofEvent event') := by
    rw [hpayload, hpayload']
    exact hm.alike hm'
  have hrouting (order : List Rule) (horder : order.Perm b.engine.rules.values) :
      Engine.SameRouting order event event' :=
    Engine.sameRouting (fun r hr => hrules r (horder.mem_iff.1 hr)) halike
  refine ⟨⟨event, event', hevent, hevent', hpayload, hpayload', hrouting⟩, fun hi => ?_⟩
  obtain ⟨hcount, hhubs⟩ := (hrouting _ .rfl).impartial b.hub b.hub hi (.refl b.hub)
  simp only [step, Engine.dispatch, hevent, hevent']
  exact ⟨congrArg Response.delivered hcount, hhubs⟩

/-- **The encoding is immaterial.** A message is supported, and makes an event, just if its bytes are a text; the event
then has the text that the message reads as, and the body that is delivered is the message's bytes in either form. So
after any use of an engine that has the standard transformer and compiles filters as regular expressions, a text, its
bytes and every document that is printed so match the same rules and are delivered to the same endpoints with the same
bodies; and where the endpoints answer alike, equally many deliveries are counted. -/
theorem encoding_immaterial (h : Hub) (us : List Use) :
    (∀ m now, Message.Reads m now) ∧
      ∀ t m m', Message.Encodes t m → Message.Encodes t m' → ∀ now now',
        ((start Compiler.regex Transformer.standard h).run us).SameWay t m m' now now' := by
  refine ⟨Message.reads, fun t m m' hm hm' now now' => ?_⟩
  obtain ⟨-, -, htransformer, -⟩ := run_rules Compiler.regex Transformer.standard h us
  exact sameWay_of_encodes htransformer (run_judgesText Transformer.standard h us) hm hm' now now'

/-- an empty list that comes as a document goes the way of its text, also to those that want messages as they come -/
theorem encoding_immaterial_list :
    let hub : Hub := { Hub.empty (fun _ => .done) (fun _ => "") 1 [] with
      outlets := [⟨.push "http://there", 0⟩, ⟨.inbox "gone" 0, 0⟩, ⟨.push "http://there", 0⟩] }
    let s (id : String) (raw : Bool) : Subscription :=
      ⟨id, ⟨"news", none, none, none, some ⟨"push", "http://there", "news", [], raw⟩, .empty, none⟩, .detached "there"⟩
    let us : List Use := [.register (s "a" true) (.bound 0 "there"), .register (s "b" false) (.bound 1 "there"),
      .register (s "c" false) (.bound 2 "there")]
    let b := (start Compiler.regex Transformer.standard hub).run us
    (b.step (.receive (.document (.array [])) ⟨5⟩)).1 = .delivered 2 := by
  intro hub s us b
  have hway := (encoding_immaterial hub us).2 "[]" (.text "[]") (.document (.array [])) rfl rfl ⟨0⟩ ⟨5⟩
  have himpartial : b.hub.Impartial := by
    refine ⟨fun _ _ => rfl, fun outlet ho x hx => ?_⟩
    have hmade : outlet ∈ hub.outlets := ho
    simp only [hub, List.mem_cons, List.not_mem_nil, or_false] at hmade
    obtain rfl | rfl | rfl := hmade <;> cases hx
  rw [(hway.answer himpartial).1]
  rfl

end Switchboard

end EventBroker
