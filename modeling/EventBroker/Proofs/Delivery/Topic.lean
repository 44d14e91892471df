/-
The address that is made of a location.

`normalize_eq_ok` says it all: scheme and rest of the location, and behind them a made-up topic if the rest has no slash
or ends with one. Two readings of the address follow from it.

- Read as a location again: an address without blanks is kept as it is by every broker, and one with a blank is refused
  by every broker (`normalize_again`). The blanks of a location are checked, but not those of the base and the
  publication that a topic is made up from, so there are addresses that lead nowhere.
- Read part by part: the path of the address names a topic, made up if the location names none, as long as there is no
  question mark and no hash (`normalize_namesTopic`). Slashes are looked for in the whole rest of a location, so that
  one in a query passes for a path, and what is made up goes behind a query.

`Url.parse` is never opened here; all that counts is that it has one answer for an address.
-/
import Mathlib.Data.List.TakeWhile
import Mathlib.Tactic.Common
import EventBroker.Proofs.Delivery.Address
import EventBroker.Text.Hex

namespace EventBroker

/-! ## Blanks -/

theorem Unicode.whiteSpace_ranges : Unicode.whiteSpace = ⟨#[(0x09, 0x0d), (0x20, 0x20), (0x85, 0x85), (0xa0, 0xa0),
    (0x1680, 0x1680), (0x2000, 0x200a), (0x2028, 0x2029), (0x202f, 0x202f), (0x205f, 0x205f), (0x3000, 0x3000)]⟩ :=
  rfl

namespace Text

variable {s t : List Char} {c : Char}

/-- there is no blank in a text -/
def Blankless (cs : List Char) : Prop := ∀ c ∈ cs, isBlank c = false

@[simp] theorem blankless_append : Blankless (s ++ t) ↔ Blankless s ∧ Blankless t := List.forall_mem_append

@[simp] theorem blankless_cons : Blankless (c :: t) ↔ isBlank c = false ∧ Blankless t := List.forall_mem_cons

@[simp] theorem blankless_nil : Blankless [] := fun _ h => by cases h

/-- a text that neither begins nor ends with a blank stays when it is trimmed -/
theorem trim_eq_self {d : Char} (hhead : s.head? = some c) (hc : isBlank c = false) (hlast : s.getLast? = some d)
    (hd : isBlank d = false) : trimEnd (trimStart s) = s := by
  obtain ⟨rest, rfl⟩ := List.head?_eq_some_iff.1 hhead
  obtain ⟨front, hfront⟩ := List.getLast?_eq_some_iff.1 hlast
  unfold trimEnd trimStart
  rw [List.dropWhile_cons_of_neg (by simp [hc]), hfront, List.reverse_append, List.reverse_singleton,
    List.singleton_append, List.dropWhile_cons_of_neg (by simp [hd]), List.reverse_cons, List.reverse_reverse]

/-- a text of hexadecimal digits -/
def IsHex (cs : List Char) : Prop := ∀ c ∈ cs, (Hex.value? c).isSome

theorem Hex.range_of_value? (h : (Hex.value? c).isSome) : 48 ≤ c.toNat ∧ c.toNat < 103 := by
  have h0 : ('0' : Char).toNat = 48 := rfl
  have h9 : ('9' : Char).toNat = 57 := rfl
  have hA : ('A' : Char).toNat = 65 := rfl
  have hF : ('F' : Char).toNat = 70 := rfl
  have ha : ('a' : Char).toNat = 97 := rfl
  have hf : ('f' : Char).toNat = 102 := rfl
  simp only [Hex.value?, Char.le_def, UInt32.le_iff_toNat_le, Char.toNat_val] at h
  split at h
  · omega
  · split at h
    · omega
    · split at h
      · omega
      · cases h

/-- a printed character of the first half of the code page is none -/
theorem isBlank_printed (hlow : 0x20 < c.toNat) (hhigh : c.toNat < 0x80) : isBlank c = false := by
  have hnone : ∀ n < 0x80, 0x20 < n → Unicode.whiteSpace.contains n = false := by
    rw [Unicode.whiteSpace_ranges]
    decide +kernel
  exact hnone _ hhigh hlow

theorem blankless_printed (h : ∀ c ∈ s, 0x20 < c.toNat ∧ c.toNat < 0x80) : Blankless s :=
  fun c hc => isBlank_printed (h c hc).1 (h c hc).2

theorem isBlank_hex (h : (Hex.value? c).isSome) : isBlank c = false := by
  obtain ⟨hlow, hhigh⟩ := Hex.range_of_value? h
  exact isBlank_printed (by omega) (by omega)

theorem IsHex.blankless (h : IsHex s) : Blankless s := fun c hc => isBlank_hex (h c hc)

end Text

namespace TopicAddress

open Text (Blankless IsHex)

variable {location rest topic p : List Char} {s : String}

/-! ## What is made of a location -/

/-- what follows the scheme of a location that leads somewhere: it begins with a host, and there is no blank in it -/
structure Hosted (rest : List Char) : Prop where
  host : rest.head?.all (· == '/') = false
  blankless : Blankless rest

/-- no topic is put behind such a text -/
def Whole (rest : List Char) : Prop := '/' ∈ rest ∧ rest.getLast? ≠ some '/'

instance : Decidable (Whole rest) := inferInstanceAs (Decidable (_ ∧ _))

/-- what is put behind a location -/
def ending (rest topic : List Char) : List Char :=
  if Whole rest then [] else if '/' ∈ rest then topic else '/' :: topic

theorem ending_eq_append (h : ¬Whole rest) (topic : List Char) : ending rest topic = ending rest [] ++ topic := by
  unfold ending
  rw [if_neg h, if_neg h]
  split <;> rfl

/-- where a location leads, by what follows its scheme -/
def aim (scheme rest : List Char) : Target :=
  if Whole rest then .named (scheme ++ schemeMark ++ rest) else .under (scheme ++ schemeMark ++ rest ++ ending rest [])

/-- the tests that `target` makes at the end -/
theorem aim_eq (scheme rest : List Char) : (.ok (aim scheme rest) : Except BrokerError Target) =
    if !rest.contains '/' then .ok (.under (scheme ++ schemeMark ++ rest ++ ['/']))
    else if rest.getLast? == some '/' then .ok (.under (scheme ++ schemeMark ++ rest))
    else .ok (.named (scheme ++ schemeMark ++ rest)) := by
  unfold aim ending Whole
  by_cases hslash : '/' ∈ rest
  · by_cases hlast : rest.getLast? = some '/'
    · simp [hslash, hlast]
    · simp [hslash, hlast]
  · simp [hslash]

theorem address_aim (scheme rest topic : List Char) :
    (aim scheme rest).address topic = checked (scheme ++ schemeMark ++ (rest ++ ending rest topic)) := by
  unfold aim
  by_cases hrest : Whole rest
  · rw [if_pos hrest, ending, if_pos hrest, List.append_nil]
    rfl
  · rw [if_neg hrest, ending_eq_append hrest topic, ← List.append_assoc rest, ← List.append_assoc,
      ← List.append_assoc (scheme ++ schemeMark)]
    rfl

/-- every way in which a location leads somewhere -/
theorem target_eq_ok {t : Target} : target location = .ok t ↔
    ∃ s ∈ schemes, ∃ rest, parted location = (s.toList, rest) ∧ Hosted rest ∧ t = aim s.toList rest := by
  obtain ⟨⟨scheme, rest⟩, hparts⟩ : ∃ parts, parted location = parts := ⟨_, rfl⟩
  unfold target
  rw [hparts]
  dsimp only
  rw [← aim_eq]
  constructor
  · intro h
    split at h
    · cases h
    · rename_i hscheme
      split at h
      · cases h
      · rename_i hhost
        simp only [Bool.or_eq_true, not_or, Bool.not_eq_true] at hhost
        refine ⟨String.ofList scheme, by simpa using hscheme, rest, by rw [String.toList_ofList],
          ⟨hhost.1, fun c hc => by simpa using List.any_eq_false.1 hhost.2 c hc⟩, ?_⟩
        rw [String.toList_ofList]
        exact (Except.ok.inj h).symm
  · rintro ⟨s, hs, rest', hsame, ⟨hhost, hblank⟩, rfl⟩
    cases hsame
    have hany : rest.any Text.isBlank = false := List.any_eq_false.2 fun c hc => by simp [hblank c hc]
    rw [String.ofList_toList, hhost, hany, if_neg (by simpa using hs), if_neg (by simp)]

/-- every way in which a location has an address -/
theorem normalize_eq_ok {location broker base publication suffix a : String} :
    normalize location broker base publication suffix = .ok a ↔ ∃ s ∈ schemes, ∃ rest,
      parted (effective location.toList broker.toList) = (s.toList, rest) ∧ Hosted rest ∧
      a.toList = s.toList ++ schemeMark ++ (rest ++ ending rest (topicName base publication suffix)) ∧
      (Url.parse a).isOk = true := by
  have hchecked : ∀ l, checked l = .ok a ↔ a.toList = l ∧ (Url.parse a).isOk = true := by
    intro l
    rw [checked_eq_ok]
    constructor
    · rintro ⟨hparse, rfl⟩
      exact ⟨String.toList_ofList, hparse⟩
    · rintro ⟨rfl, hparse⟩
      rw [String.ofList_toList]
      exact ⟨hparse, rfl⟩
  unfold normalize
  cases ht : target (effective location.toList broker.toList) with
  | error f =>
    refine ⟨fun h => (by cases h), ?_⟩
    rintro ⟨s, hs, rest, hparts, hhosted, -, -⟩
    rw [target_eq_ok.2 ⟨s, hs, rest, hparts, hhosted, rfl⟩] at ht
    cases ht
  | ok t =>
    obtain ⟨s, hs, rest, hparts, hhosted, rfl⟩ := target_eq_ok.1 ht
    show (aim s.toList rest).address _ = .ok a ↔ _
    rw [address_aim, hchecked]
    refine ⟨fun h => ⟨s, hs, rest, hparts, hhosted, h⟩, ?_⟩
    rintro ⟨s', hs', rest', hparts', -, h⟩
    rw [hparts] at hparts'
    obtain ⟨hscheme, rfl⟩ := Prod.mk.inj hparts'
    rw [hscheme]
    exact h

/-! ## Read as a location again -/

/-- an address is told apart into what it was put together from -/
theorem parted_address (hs : s ∈ schemes) (rest : List Char) :
    parted (s.toList ++ schemeMark ++ rest) = (s.toList, rest) := by
  simp only [schemes, List.mem_cons, List.not_mem_nil, or_false] at hs
  rcases hs with rfl | rfl | rfl | rfl <;> rfl

theorem scheme_blankless (hs : s ∈ schemes) : Blankless (s.toList ++ schemeMark) := by
  refine Text.blankless_printed ?_
  simp only [schemes, List.mem_cons, List.not_mem_nil, or_false] at hs
  rcases hs with rfl | rfl | rfl | rfl <;> simp [schemeMark]

theorem topicName_getLast? {suffix : String} (hsuffix : IsHex suffix.toList) (base publication : String) :
    ∃ d, (topicName base publication suffix).getLast? = some d ∧ d ≠ '/' ∧ Text.isBlank d = false := by
  unfold topicName
  rw [List.getLast?_append, List.getLast?_cons, Option.some_or]
  refine ⟨_, rfl, ?_⟩
  cases hend : suffix.toList.getLast? with
  | none => exact ⟨by decide, Text.isBlank_printed (by decide) (by decide)⟩
  | some d =>
    have hhex : (Text.Hex.value? d).isSome := hsuffix d (List.mem_of_getLast? hend)
    refine ⟨?_, Text.isBlank_hex hhex⟩
    rintro rfl
    exact absurd hhex (by decide)

theorem topicName_blankless {suffix : String} (hsuffix : IsHex suffix.toList) {base publication : String} :
    Blankless (topicName base publication suffix) ↔ Blankless base.toList ∧ Blankless publication.toList := by
  have hdot : Text.isBlank '.' = false := Text.isBlank_printed (by decide) (by decide)
  simp [topicName, hdot, hsuffix.blankless]

theorem ending_blankless : Blankless (ending rest topic) ↔ Whole rest ∨ Blankless topic := by
  have hslash : Text.isBlank '/' = false := Text.isBlank_printed (by decide) (by decide)
  unfold ending
  split
  · rename_i hrest
    simp [hrest]
  · rename_i hrest
    split <;> simp [hrest, hslash]

theorem ending_getLast? {d : Char} (hrest : ¬Whole rest) (hlast : topic.getLast? = some d) :
    (rest ++ ending rest topic).getLast? = some d := by
  rw [ending_eq_append hrest, ← List.append_assoc, List.getLast?_append, hlast]
  rfl

/-- nothing more is put behind what has a topic put behind it -/
theorem whole_ending {d : Char} (hlast : topic.getLast? = some d) (hd : d ≠ '/') (rest : List Char) :
    Whole (rest ++ ending rest topic) := by
  by_cases hrest : Whole rest
  · rw [ending, if_pos hrest, List.append_nil]
    exact hrest
  · refine ⟨?_, by rw [ending_getLast? hrest hlast]; simpa using hd⟩
    unfold ending
    rw [if_neg hrest]
    split
    · rename_i hslash
      exact List.mem_append_left _ hslash
    · exact List.mem_append_right _ List.mem_cons_self

theorem Hosted.append (h : Hosted rest) (hp : Blankless p) : Hosted (rest ++ p) := by
  obtain ⟨hhost, hblank⟩ := h
  refine ⟨?_, Text.blankless_append.2 ⟨hblank, hp⟩⟩
  cases rest with
  | nil => cases hhost
  | cons c cs => exact hhost

/-- an address has nothing to be trimmed off -/
theorem effective_address (hs : s ∈ schemes) {d : Char} (hlast : rest.getLast? = some d) (hd : Text.isBlank d = false)
    (broker : List Char) : effective (s.toList ++ schemeMark ++ rest) broker = s.toList ++ schemeMark ++ rest := by
  obtain ⟨c, cs, hcs⟩ : ∃ c cs, s.toList ++ schemeMark = c :: cs :=
    List.exists_cons_of_ne_nil (by simp [schemeMark])
  have hc : Text.isBlank c = false := scheme_blankless hs c (by rw [hcs]; exact List.mem_cons_self)
  unfold effective
  rw [Text.trim_eq_self (by rw [hcs]; rfl) hc (by rw [List.getLast?_append, hlast]; rfl) hd, hcs]
  rfl

/-- an address that every broker keeps as it is, without a topic made up for it -/
def Fixed (a : String) : Prop := ∀ broker base publication suffix,
  target (effective a.toList broker.toList) = .ok (.named a.toList) ∧
    normalize a broker base publication suffix = .ok a

/-- an address that no broker takes for a location -/
def Refused (a : String) : Prop := ∀ broker base publication suffix,
  (normalize a broker base publication suffix).isOk = false

/-- the location names a topic, so none is made up -/
def HasTopic (location broker : String) : Prop :=
  ∃ address, target (effective location.toList broker.toList) = .ok (.named address)

theorem hasTopic_iff {location broker : String} (hs : s ∈ schemes) (hhosted : Hosted rest)
    (hparts : parted (effective location.toList broker.toList) = (s.toList, rest)) :
    HasTopic location broker ↔ Whole rest := by
  unfold HasTopic
  rw [target_eq_ok.2 ⟨s, hs, rest, hparts, hhosted, rfl⟩]
  by_cases hrest : Whole rest
  · simp [aim, hrest]
  · simp [aim, hrest]

/-- **An address is a location that stays as it is, or one that is refused.** Which of the two depends on the blanks in
what a topic is made up from; nothing else can be wrong with an address. -/
theorem normalize_again {location broker base publication suffix a : String} (hsuffix : IsHex suffix.toList)
    (h : normalize location broker base publication suffix = .ok a) :
    (∃ s ∈ schemes, ∃ rest, a.toList = s.toList ++ schemeMark ++ rest) ∧
      (Blankless a.toList ↔ HasTopic location broker ∨ Blankless base.toList ∧ Blankless publication.toList) ∧
      (Blankless a.toList → Fixed a) ∧ (¬Blankless a.toList → Refused a) := by
  obtain ⟨s, hs, rest, hparts, hhosted, ha, hparse⟩ := normalize_eq_ok.1 h
  obtain ⟨d, hd, hslash, hplain⟩ := topicName_getLast? hsuffix base publication
  have hwhole := whole_ending hd hslash rest
  have hends : ∃ e, (rest ++ ending rest (topicName base publication suffix)).getLast? = some e ∧
      Text.isBlank e = false := by
    by_cases hrest : Whole rest
    · rw [ending, if_pos hrest, List.append_nil]
      obtain ⟨e, he⟩ := Option.ne_none_iff_exists'.1
        (mt List.getLast?_eq_none_iff.1 (List.ne_nil_of_mem hrest.1))
      exact ⟨e, he, hhosted.blankless e (List.mem_of_getLast? he)⟩
    · exact ⟨d, ending_getLast? hrest hd, hplain⟩
  obtain ⟨e, hlast, he⟩ := hends
  have hagain : ∀ broker, parted (effective a.toList broker) =
      (s.toList, rest ++ ending rest (topicName base publication suffix)) := by
    intro broker
    rw [ha, effective_address hs hlast he, parted_address hs]
  have hblank : Blankless a.toList ↔ Blankless (ending rest (topicName base publication suffix)) := by
    rw [ha, Text.blankless_append]
    exact ⟨fun h => (Text.blankless_append.1 h.2).2,
      fun h => ⟨scheme_blankless hs, Text.blankless_append.2 ⟨hhosted.blankless, h⟩⟩⟩
  refine ⟨⟨s, hs, _, ha⟩, ?_, fun hless broker' base' publication' suffix' => ?_,
    fun hnot broker' base' publication' suffix' => ?_⟩
  · rw [hblank, hasTopic_iff hs hhosted hparts, ending_blankless, topicName_blankless hsuffix]
  · have hhosted' := hhosted.append (hblank.1 hless)
    refine ⟨target_eq_ok.2 ⟨s, hs, _, hagain _, hhosted', ?_⟩,
      normalize_eq_ok.2 ⟨s, hs, _, hagain _, hhosted', ?_, hparse⟩⟩
    · rw [aim, if_pos hwhole, ha]
    · rw [ending.eq_def (rest ++ _), if_pos hwhole, List.append_nil]
      exact ha
  · cases hnormal : normalize a broker' base' publication' suffix' with
    | error f => rfl
    | ok a' =>
      obtain ⟨s', -, rest', hparts', hhosted', -⟩ := normalize_eq_ok.1 hnormal
      rw [hagain] at hparts'
      obtain ⟨-, rfl⟩ := Prod.mk.inj hparts'
      exact absurd (hblank.2 (Text.blankless_append.1 hhosted'.blankless).2) hnot

/-! an address with a blank that comes from a publication -/

theorem isHex_suffix : IsHex "0a".toList := by
  simp [IsHex, Text.Hex.value?]

theorem effective_blankless (h : Blankless location) (hne : location ≠ []) (broker : List Char) :
    effective location broker = location := by
  obtain ⟨c, cs, rfl⟩ := List.exists_cons_of_ne_nil hne
  have hlast : (c :: cs).getLast? = some ((c :: cs).getLast hne) := List.getLast?_eq_some_getLast hne
  unfold effective
  rw [Text.trim_eq_self rfl (h c List.mem_cons_self) hlast (h _ (List.getLast_mem hne))]

theorem normalize_spaced :
    normalize "host" "localhost" "herald" "my topic" "0a" = .ok "amqp://host/herald.my topic.0a" := by
  have hblank : Blankless "host".toList := Text.blankless_printed (by simp)
  refine normalize_eq_ok.2 ⟨"amqp", by decide, "host".toList, ?_, ⟨by decide, hblank⟩, by decide +kernel,
    by decide +kernel⟩
  rw [effective_blankless hblank (by decide)]
  rfl

theorem normalize_again_spaced : normalize "host" "localhost" "herald" "my topic" "0a" =
    .ok "amqp://host/herald.my topic.0a" ∧ Refused "amqp://host/herald.my topic.0a" := by
  have hspace : Text.isBlank ' ' = true := by
    unfold Text.isBlank
    rw [Unicode.whiteSpace_ranges]
    decide
  refine ⟨normalize_spaced, (normalize_again isHex_suffix normalize_spaced).2.2.2 fun h => ?_⟩
  rw [h ' ' (by decide +kernel)] at hspace
  cases hspace

/-! ## Read part by part -/

/-- a character that a query or a fragment begins with -/
def isMark (c : Char) : Bool := c == '?' || c == '#'

/-- there is neither a query nor a fragment in a text -/
def Unmarked (cs : List Char) : Prop := ∀ c ∈ cs, isMark c = false

/-- the path in what follows a scheme: it stands between the authority and a query or a fragment -/
def pathOf (rest : List Char) : List Char :=
  (rest.dropWhile (!Url.endsAuthority false ·)).takeWhile (!isMark ·)

/-- the path of a location -/
def path (location : List Char) : List Char := pathOf (parted location).2

variable {c : Char} {t : List Char}

@[simp] theorem unmarked_append : Unmarked (p ++ t) ↔ Unmarked p ∧ Unmarked t := List.forall_mem_append

@[simp] theorem unmarked_cons : Unmarked (c :: t) ↔ isMark c = false ∧ Unmarked t := List.forall_mem_cons

theorem takeWhile_eq_self_iff : p.takeWhile (!isMark ·) = p ↔ Unmarked p := by
  simp [List.takeWhile_eq_self_iff, Unmarked]

theorem takeWhile_append_unmarked (hp : Unmarked p) (t : List Char) :
    (p ++ t).takeWhile (!isMark ·) = p ++ t.takeWhile (!isMark ·) :=
  List.takeWhile_append_of_pos fun c hc => by rw [hp c hc]; rfl

theorem takeWhile_append_marked (hp : ¬Unmarked p) (t : List Char) :
    (p ++ t).takeWhile (!isMark ·) = p.takeWhile (!isMark ·) := by
  have hshort : (p.takeWhile (!isMark ·)).length ≠ p.length := fun h =>
    hp (takeWhile_eq_self_iff.1 ((List.takeWhile_prefix _).eq_of_length h))
  rw [List.takeWhile_append, if_neg hshort]

@[simp] theorem pathOf_slash (t : List Char) : pathOf ('/' :: t) = '/' :: t.takeWhile (!isMark ·) := rfl

theorem pathOf_mark (hc : isMark c = true) (t : List Char) : pathOf (c :: t) = [] := by
  have hmark : c = '?' ∨ c = '#' := by simpa [isMark] using hc
  rcases hmark with rfl | rfl <;> rfl

theorem pathOf_cons (hslash : c ≠ '/') (hc : isMark c = false) (t : List Char) : pathOf (c :: t) = pathOf t := by
  have hends : Url.endsAuthority false c = false := by
    simp only [isMark, Bool.or_eq_false_iff] at hc
    simp [Url.endsAuthority, hslash, hc.1, hc.2]
  unfold pathOf
  rw [List.dropWhile_cons_of_pos (by simp [hends])]

/-- what is put behind a text belongs to its path, if it has one and no query -/
theorem pathOf_append_unmarked (hp : Unmarked p) (t : List Char) :
    pathOf (p ++ t) = if '/' ∈ p then pathOf p ++ t.takeWhile (!isMark ·) else pathOf t := by
  induction p with
  | nil => rfl
  | cons c p ih =>
    obtain ⟨hc, htail⟩ := unmarked_cons.1 hp
    rw [List.cons_append]
    by_cases hslash : c = '/'
    · subst hslash
      rw [pathOf_slash, pathOf_slash, if_pos List.mem_cons_self, takeWhile_append_unmarked htail,
        takeWhile_eq_self_iff.2 htail, List.cons_append]
    · rw [pathOf_cons hslash hc, pathOf_cons hslash hc, ih htail]
      simp [Ne.symm hslash]

/-- what is put behind a query or a fragment does not -/
theorem pathOf_append_marked (hp : ¬Unmarked p) (t : List Char) : pathOf (p ++ t) = pathOf p := by
  induction p with
  | nil => exact absurd (fun _ h => by cases h) hp
  | cons c p ih =>
    rw [List.cons_append]
    cases hc : isMark c with
    | true => rw [pathOf_mark hc, pathOf_mark hc]
    | false =>
      have htail : ¬Unmarked p := fun h => hp (unmarked_cons.2 ⟨hc, h⟩)
      by_cases hslash : c = '/'
      · subst hslash
        rw [pathOf_slash, pathOf_slash, takeWhile_append_marked htail]
      · rw [pathOf_cons hslash hc, pathOf_cons hslash hc, ih htail]

/-- without a slash there is no path -/
theorem pathOf_eq_nil (h : '/' ∉ p) : pathOf p = [] := by
  induction p with
  | nil => rfl
  | cons c p ih =>
    obtain ⟨hslash, htail⟩ := List.ne_and_not_mem_of_not_mem_cons h
    cases hc : isMark c with
    | true => exact pathOf_mark hc p
    | false => rw [pathOf_cons hslash.symm hc, ih htail]

/-- without a query the path goes from the first slash to the end -/
theorem pathOf_unmarked (hp : Unmarked p) (h : '/' ∈ p) :
    ∃ front t, p = front ++ '/' :: t ∧ pathOf p = '/' :: t := by
  induction p with
  | nil => cases h
  | cons c p ih =>
    obtain ⟨hc, htail⟩ := unmarked_cons.1 hp
    by_cases hslash : c = '/'
    · subst hslash
      exact ⟨[], p, rfl, by rw [pathOf_slash, takeWhile_eq_self_iff.2 htail]⟩
    · obtain ⟨front, t, hsplit, hpath⟩ := ih htail (List.mem_of_ne_of_mem (Ne.symm hslash) h)
      exact ⟨c :: front, t, by rw [hsplit, List.cons_append], by rw [pathOf_cons hslash hc, hpath]⟩

theorem getLast?_pathOf (hp : Unmarked p) (h : '/' ∈ p) : (pathOf p).getLast? = p.getLast? := by
  obtain ⟨front, t, hsplit, hpath⟩ := pathOf_unmarked hp h
  rw [hpath, hsplit, List.getLast?_append, List.getLast?_cons, Option.some_or]

theorem pathOf_eq_slash_cons (h : pathOf p ≠ []) : ∃ t, pathOf p = '/' :: t := by
  induction p with
  | nil => exact absurd rfl h
  | cons c p ih =>
    cases hc : isMark c with
    | true => exact absurd (pathOf_mark hc p) h
    | false =>
      by_cases hslash : c = '/'
      · subst hslash
        exact ⟨_, pathOf_slash p⟩
      · rw [pathOf_cons hslash hc] at h ⊢
        exact ih h

/-- a place under which topics are named: no path, or one that ends with a slash -/
def IsPlace (path : List Char) : Prop := path = [] ∨ path.getLast? = some '/'

/-- the path of a topic at a place -/
def topicPath (path topic : List Char) : List Char := (if path = [] then ['/'] else path) ++ topic

theorem length_topicPath (path topic : List Char) :
    (topicPath path topic).length = max 1 path.length + topic.length := by
  unfold topicPath
  rw [List.length_append]
  split
  · rename_i hnil
    simp [hnil]
  · rename_i hnil
    have hpos : 0 < path.length := List.length_pos_iff.2 hnil
    omega

/-- a location has this address by the rules: a topic goes behind a place, and what names a topic stays -/
structure NamesTopic (location address topic : List Char) : Prop where
  long : 1 < (path address).length
  made : IsPlace (path location) → path address = topicPath (path location) topic
  kept : ¬IsPlace (path location) → path address = path location

/-- a path that names a topic stays -/
theorem pathOf_ending_named (h : ¬IsPlace (pathOf rest)) (topic : List Char) :
    pathOf (rest ++ ending rest topic) = pathOf rest := by
  obtain ⟨hnil, hlast⟩ := not_or.1 h
  have hslash : '/' ∈ rest := by
    by_contra hnone
    exact hnil (pathOf_eq_nil hnone)
  by_cases hrest : Unmarked rest
  · have hwhole : Whole rest := ⟨hslash, by rwa [← getLast?_pathOf hrest hslash]⟩
    rw [ending, if_pos hwhole, List.append_nil]
  · exact pathOf_append_marked hrest _

/-- a topic is put behind a place, up to the first question mark or hash in it -/
theorem pathOf_ending_place (h : IsPlace (pathOf rest)) (hrest : Unmarked rest) (topic : List Char) :
    pathOf (rest ++ ending rest topic) = topicPath (pathOf rest) (topic.takeWhile (!isMark ·)) := by
  unfold topicPath
  by_cases hslash : '/' ∈ rest
  · obtain ⟨front, t, -, hpath⟩ := pathOf_unmarked hrest hslash
    have hnil : pathOf rest ≠ [] := by simp [hpath]
    have hlast : rest.getLast? = some '/' := by rw [← getLast?_pathOf hrest hslash, h.resolve_left hnil]
    have hwhole : ¬Whole rest := fun hw => hw.2 hlast
    rw [ending, if_neg hwhole, if_pos hslash, pathOf_append_unmarked hrest, if_pos hslash, if_neg hnil]
  · have hwhole : ¬Whole rest := fun hw => hslash hw.1
    rw [ending, if_neg hwhole, if_neg hslash, pathOf_append_unmarked hrest, if_neg hslash, pathOf_slash,
      pathOf_eq_nil hslash, if_pos rfl]
    rfl

theorem topicName_unmarked {suffix : String} (hsuffix : IsHex suffix.toList) {base publication : String} :
    Unmarked (topicName base publication suffix) ↔ Unmarked base.toList ∧ Unmarked publication.toList := by
  have hdot : isMark '.' = false := by decide
  have hhex : Unmarked suffix.toList := by
    intro c hc
    have hvalue := hsuffix c hc
    rw [isMark, Bool.or_eq_false_iff, beq_eq_false_iff_ne, beq_eq_false_iff_ne]
    constructor
    · rintro rfl
      exact absurd hvalue (by decide)
    · rintro rfl
      exact absurd hvalue (by decide)
  simp [topicName, hdot, hhex]

/-- **The path of an address names a topic**, made up exactly if the location names none, unless a question mark or a
hash stands in what is put together: then the topic is no part of the path. A location that names a topic in its path
has it kept in any case. -/
theorem normalize_namesTopic {location broker base publication suffix a : String} (hsuffix : IsHex suffix.toList)
    (h : normalize location broker base publication suffix = .ok a) :
    let place := effective location.toList broker.toList
    NamesTopic place a.toList (topicName base publication suffix) ↔
      ¬IsPlace (path place) ∨
        Unmarked (parted place).2 ∧ Unmarked base.toList ∧ Unmarked publication.toList := by
  intro place
  obtain ⟨s, hs, rest, hparts, hhosted, ha, -⟩ := normalize_eq_ok.1 h
  have hown : path place = pathOf rest := by rw [path, hparts]
  have haddress : path a.toList = pathOf (rest ++ ending rest (topicName base publication suffix)) := by
    rw [path, ha, parted_address hs]
  have htopic : 0 < (topicName base publication suffix).length := List.length_pos_iff.2 (by simp [topicName])
  rw [hparts, ← topicName_unmarked hsuffix, hown]
  by_cases hplace : IsPlace (pathOf rest)
  · have hrule : NamesTopic place a.toList (topicName base publication suffix) ↔
        path a.toList = topicPath (pathOf rest) (topicName base publication suffix) := by
      refine ⟨fun h => hown ▸ h.made (hown ▸ hplace), fun h => ⟨?_, fun _ => hown ▸ h, fun hno => ?_⟩⟩
      · rw [h, length_topicPath]
        omega
      · exact absurd (hown ▸ hplace) hno
    rw [hrule, haddress]
    constructor
    · intro heq
      by_cases hrest : Unmarked rest
      · rw [pathOf_ending_place hplace hrest] at heq
        exact Or.inr ⟨hrest, takeWhile_eq_self_iff.1 (List.append_cancel_left heq)⟩
      · -- what is put behind a query does not reach the path
        have hlength := congrArg List.length heq
        rw [pathOf_append_marked hrest, length_topicPath] at hlength
        omega
    · rintro (hno | ⟨hrest, hplain⟩)
      · exact absurd hplace hno
      · rw [pathOf_ending_place hplace hrest, takeWhile_eq_self_iff.2 hplain]
  · refine iff_of_true ⟨?_, fun hp => absurd (hown ▸ hp) hplace, fun _ => ?_⟩ (Or.inl hplace)
    · obtain ⟨hnil, hlast⟩ := not_or.1 hplace
      obtain ⟨t, hpath⟩ := pathOf_eq_slash_cons hnil
      rw [haddress, pathOf_ending_named hplace, hpath]
      cases t with
      | nil => exact absurd (by rw [hpath]; rfl) hlast
      | cons c t => simp
    · rw [haddress, hown, pathOf_ending_named hplace]

/-! a location with a slash in its query -/

theorem normalize_query :
    normalize "host?a/b" "localhost" "herald" "weather" "0a" = .ok "amqp://host?a/b" := by
  have hblank : Blankless "host?a/b".toList := Text.blankless_printed (by simp)
  refine normalize_eq_ok.2 ⟨"amqp", by decide, "host?a/b".toList, ?_, ⟨by decide, hblank⟩, by decide +kernel,
    by decide +kernel⟩
  rw [effective_blankless hblank (by decide)]
  rfl

theorem normalize_namesTopic_query :
    normalize "host?a/b" "localhost" "herald" "weather" "0a" = .ok "amqp://host?a/b" ∧
      path "amqp://host?a/b".toList = [] ∧ ¬NamesTopic (effective "host?a/b".toList "localhost".toList)
        "amqp://host?a/b".toList (topicName "herald" "weather" "0a") := by
  have hblank : Blankless "host?a/b".toList := Text.blankless_printed (by simp)
  refine ⟨normalize_query, by decide +kernel, fun h => ?_⟩
  have hexact := (normalize_namesTopic isHex_suffix normalize_query).1 h
  rw [effective_blankless hblank (by decide)] at hexact
  rcases hexact with hplace | hplain
  · exact hplace (Or.inl (by decide +kernel))
  · exact absurd (hplain.1 '?' (by decide +kernel)) (by decide)

end TopicAddress
end EventBroker
