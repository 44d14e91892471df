/-
What a subscriber asks for: a publication, an optional filter, where and how events are delivered, and an end.
-/
import EventBroker.Time

namespace EventBroker

/-- a parameter that belongs to one transport; parameters may nest -/
structure DeliveryParameter where
  space : String
  element : String
  value : String
  children : List DeliveryParameter

namespace DeliveryParameter

mutual

def decEq : (p q : DeliveryParameter) → Decidable (p = q)
  | ⟨s, e, v, cs⟩, ⟨s', e', v', cs'⟩ =>
    match decEqList cs cs' with
    | isFalse h => isFalse fun h' => by cases h'; exact h rfl
    | isTrue h =>
      if hs : s = s' ∧ e = e' ∧ v = v' then isTrue (by rw [hs.1, hs.2.1, hs.2.2, h])
      else isFalse fun h' => by cases h'; exact hs ⟨rfl, rfl, rfl⟩

def decEqList : (ps qs : List DeliveryParameter) → Decidable (ps = qs)
  | [], [] => isTrue rfl
  | [], _ :: _ => isFalse nofun
  | _ :: _, [] => isFalse nofun
  | p :: ps, q :: qs =>
    match decEq p q, decEqList ps qs with
    | isTrue h, isTrue h' => isTrue (by rw [h, h'])
    | isFalse h, _ => isFalse fun e => by cases e; exact h rfl
    | _, isFalse h => isFalse fun e => by cases e; exact h rfl

end

instance : DecidableEq DeliveryParameter := decEq

end DeliveryParameter

/-- where and how matching events are delivered -/
structure DeliveryDefinition where
  /-- selects the provider -/
  identifier : String
  /-- an address in the terms of the provider -/
  location : String
  publicationId : String
  parameters : List DeliveryParameter
  /-- deliver the message as it came instead of its text -/
  useRaw : Bool
  deriving DecidableEq

/-- the value of the first parameter with this element name; nested parameters are not looked at -/
def DeliveryDefinition.parameter? (d : DeliveryDefinition) (element : String) : Option String :=
  (d.parameters.find? fun p => p.element == element).map DeliveryParameter.value

/-- texts under names, each name once, in increasing order of names -/
structure ParameterMap where
  entries : List (String × String)
  increasing : entries.Pairwise fun a b => compare a.1 b.1 = .lt
  deriving DecidableEq

namespace ParameterMap

def empty : ParameterMap := ⟨[], .nil⟩

/-- put an entry in its place; one of the same name is replaced -/
def put (k v : String) : List (String × String) → List (String × String)
  | [] => [(k, v)]
  | e :: es =>
    match compare k e.1 with
    | .lt => (k, v) :: e :: es
    | .eq => (k, v) :: es
    | .gt => e :: put k v es

theorem mem_put {k v : String} {es : List (String × String)} {x : String × String} (h : x ∈ put k v es) :
    x = (k, v) ∨ x ∈ es := by
  induction es with
  | nil => simpa [put] using h
  | cons e es ih =>
    rw [put] at h
    split at h
    · simpa using h
    · rcases List.mem_cons.1 h with h | h
      · exact .inl h
      · exact .inr (List.mem_cons_of_mem _ h)
    · rcases List.mem_cons.1 h with h | h
      · exact .inr (h ▸ List.mem_cons_self)
      · exact (ih h).imp_right (List.mem_cons_of_mem _)

theorem increasing_put (k v : String) {es : List (String × String)}
    (h : es.Pairwise fun a b => compare a.1 b.1 = .lt) : (put k v es).Pairwise fun a b => compare a.1 b.1 = .lt := by
  induction es with
  | nil => simp [put]
  | cons e es ih =>
    have ⟨hhead, htail⟩ := List.pairwise_cons.1 h
    rw [put]
    split
    · rename_i hlt
      refine List.pairwise_cons.2 ⟨fun x hx => ?_, h⟩
      rcases List.mem_cons.1 hx with rfl | hx
      · exact hlt
      · exact Std.TransCmp.lt_trans hlt (hhead x hx)
    · rename_i heq
      refine List.pairwise_cons.2 ⟨fun x hx => ?_, htail⟩
      have : k = e.1 := Std.LawfulEqCmp.eq_of_compare heq
      exact this ▸ hhead x hx
    · rename_i hgt
      refine List.pairwise_cons.2 ⟨fun x hx => ?_, ih htail⟩
      rcases mem_put hx with rfl | hx
      · exact Std.OrientedCmp.gt_iff_lt.1 hgt
      · exact hhead x hx

def insert (m : ParameterMap) (k v : String) : ParameterMap :=
  ⟨put k v m.entries, increasing_put k v m.increasing⟩

/-- the map of some entries; of two with one name the last one counts -/
def ofList (es : List (String × String)) : ParameterMap :=
  es.foldl (fun m e => m.insert e.1 e.2) empty

end ParameterMap

/-- the options of a subscription -/
structure SubscribeOptions where
  publicationIdentifier : String
  /-- when the subscription ends; never, if absent -/
  terminationTime : Option Timestamp
  filterExpression : Option String
  filterLanguage : Option String
  delivery : Option DeliveryDefinition
  deliveryParameters : ParameterMap
  contentType : Option String
  deriving DecidableEq

end EventBroker
