/-
Where an authority ends, the rest of an address begins.

In the schemes that the web does not know, an authority ends at the first slash, question mark or hash, and nothing but
an authority can be wrong with an address. So whether an address is one does not depend on what follows its first slash:
`readAuthority_isOk`, `parse_isOk`.
-/
import Mathlib.Tactic.Common
import EventBroker.Url.Parse

namespace EventBroker.Url

variable {p q : List Char} {e : Char}

theorem mark_of_endsAuthority (he : endsAuthority false e = true) : e = '/' ∨ e = '?' ∨ e = '#' := by
  simpa [endsAuthority, or_assoc] using he

theorem takeWhile_before (hp : ∀ c ∈ p, endsAuthority false c = false) (he : endsAuthority false e = true)
    (t : List Char) : (p ++ e :: t).takeWhile (!endsAuthority false ·) = p := by
  rw [List.takeWhile_append_of_pos fun c hc => by rw [hp c hc]; rfl, List.takeWhile_cons_of_neg (by simp [he]),
    List.append_nil]

/-- the user is told by what stands before the end of the authority -/
theorem splitUser_before (hp : ∀ c ∈ p, endsAuthority false c = false) (he : endsAuthority false e = true) :
    ∃ (any : Bool) (user q : List Char), (∀ c ∈ q, endsAuthority false c = false) ∧
      ∀ t, (splitUser false (p ++ e :: t)).isSome = any ∧
        (splitUser false (p ++ e :: t)).getD ([], p ++ e :: t) = (user, q ++ e :: t) := by
  unfold splitUser
  simp only [takeWhile_before hp he]
  set host := (p.reverse.takeWhile (· != '@')).reverse with hhost
  set user := p.take (p.length - host.length - 1) with huser
  by_cases hat : p.contains '@' = true
  · have hle : user.length + 1 ≤ p.length := by
      have hmem : '@' ∈ p := by simpa using hat
      have hpos := List.length_pos_of_mem hmem
      rw [huser, List.length_take]
      omega
    refine ⟨true, user, p.drop (user.length + 1), fun c hc => hp c (List.mem_of_mem_drop hc), fun t => ?_⟩
    rw [if_pos hat, List.drop_append_of_le_length hle]
    exact ⟨rfl, rfl⟩
  · refine ⟨false, [], p, hp, fun t => ?_⟩
    rw [if_neg hat]
    exact ⟨rfl, rfl⟩

/-- so is the host -/
theorem hostLength_before (hq : ∀ c ∈ q, endsAuthority false c = false) (he : endsAuthority false e = true)
    (inBrackets : Bool) : ∃ k ≤ q.length, ∀ t, hostLength false inBrackets (q ++ e :: t) = k := by
  induction q generalizing inBrackets with
  | nil =>
    refine ⟨0, Nat.le_refl 0, fun t => ?_⟩
    rw [List.nil_append, hostLength, he]
    rfl
  | cons c q ih =>
    obtain ⟨k, hk, hlen⟩ := ih (fun d hd => hq d (List.mem_cons_of_mem c hd))
      (if c == '[' then true else if c == ']' then false else inBrackets)
    by_cases hend : (endsAuthority false c || c == ':' && !inBrackets) = true
    · refine ⟨0, Nat.zero_le _, fun t => ?_⟩
      rw [List.cons_append, hostLength, if_pos hend]
    · refine ⟨1 + k, by rw [List.length_cons]; omega, fun t => ?_⟩
      rw [List.cons_append, hostLength, if_neg hend, hlen]

/-- and the number behind a colon -/
theorem readPortNumber_before (he : endsAuthority false e = true) (n : Nat) (any : Bool) (t t' : List Char) :
    (readPortNumber n any (q ++ e :: t)).map Prod.fst = (readPortNumber n any (q ++ e :: t')).map Prod.fst := by
  induction q generalizing n any with
  | nil =>
    have hstop : ∀ t, readPortNumber n any (e :: t) = .ok (if any then some n else none, e :: t) := by
      intro t
      rcases mark_of_endsAuthority he with rfl | rfl | rfl <;> rfl
    rw [List.nil_append, List.nil_append, hstop, hstop]
    rfl
  | cons c q ih =>
    rw [List.cons_append, List.cons_append, readPortNumber, readPortNumber]
    split
    · dsimp only
      split
      · rfl
      · exact ih _ _
    · split <;> rfl

/-- two answers tell the same but for what is left to read -/
theorem map_fst_eq_iff {ε α β : Type} {a b : Except ε (α × β)} :
    a.map Prod.fst = b.map Prod.fst ↔
      (∃ f, a = .error f ∧ b = .error f) ∨ ∃ v r r', a = .ok (v, r) ∧ b = .ok (v, r') := by
  cases a <;> cases b <;> simp [Except.map, Prod.ext_iff, eq_comm]

/-- **Nothing behind an authority can be wrong.** -/
theorem readAuthority_isOk {scheme : String} (hs : isWeb scheme = false)
    (hp : ∀ c ∈ p, endsAuthority false c = false) (he : endsAuthority false e = true) (t t' : List Char) :
    (readAuthority scheme (p ++ e :: t)).isOk = (readAuthority scheme (p ++ e :: t')).isOk := by
  obtain ⟨any, user, q, hq, huser⟩ := splitUser_before hp he
  obtain ⟨k, hk, hhost⟩ := hostLength_before hq he false
  have htake : ∀ t, (q ++ e :: t).take k = q.take k := fun t => List.take_append_of_le_length hk
  have hdrop : ∀ t, (q ++ e :: t).drop k = q.drop k ++ e :: t := fun t => List.drop_append_of_le_length hk
  have hlen : (q.take k).length = k := by rw [List.length_take]; omega
  have hhead : ∀ (l t : List Char), (l ++ e :: t).head? = some (l.headD e) := by
    intro l t
    cases l <;> rfl
  unfold readAuthority
  simp only [hs, (huser _).1, (huser _).2, hhost, htake, hlen, hdrop, hhead, Bool.false_and, Bool.false_eq_true,
    if_false, bind, Except.bind, pure, Except.pure, throw, throwThe, MonadExceptOf.throw]
  split
  · rfl
  · cases opaqueHost (q.take k) with
    | error f => rfl
    | ok host =>
      dsimp only
      split
      · rfl
      · cases hrest : q.drop k with
        | nil =>
          rw [List.nil_append, List.nil_append]
          cases host.isEmpty && !(renderUser user).isEmpty
          · rcases mark_of_endsAuthority he with rfl | rfl | rfl <;> rfl
          · rcases mark_of_endsAuthority he with rfl | rfl | rfl <;> rfl
        | cons c r =>
          rw [List.cons_append, List.cons_append]
          split
          · -- a number is right or wrong whatever follows it
            rename_i heq
            cases heq
            rcases map_fst_eq_iff.1 (readPortNumber_before (q := r) he 0 false t t') with
              ⟨f, hn, hn'⟩ | ⟨n, rest, rest', hn, hn'⟩
            · simp only [hn, hn']
            · simp only [hn, hn']
              split <;> rfl
          · rename_i hcolon
            cases host.isEmpty && !(renderUser user).isEmpty
            all_goals
              simp only [Bool.false_eq_true, if_false, if_true]
              split
              · rename_i heq
                cases heq
                exact absurd rfl (hcolon _)
              · rfl

/-! ## Addresses -/

/-- a character at which an input may begin and end -/
def isCore (c : Char) : Bool := 0x20 < c.toNat

theorem not_edge_of_isCore {c : Char} (h : isCore c = true) : decide (c.toNat ≤ 0x20) = false := by
  have hlt : 0x20 < c.toNat := by simpa [isCore] using h
  simpa using hlt

/-- a character that is not dropped wherever it stands -/
def isKept (c : Char) : Bool := c != '\t' && c != '\n' && c != '\r'

/-- what an input begins with stays, if nothing in it is ever dropped -/
theorem cleaned_append {c d : Char} {place : List Char} (hfirst : place.head? = some c) (hc : isCore c = true)
    (hlast : place.getLast? = some d) (hd : isCore d = true)
    (hkeep : ∀ x ∈ place, isKept x = true) (t : List Char) :
    ∃ t', cleaned (String.ofList (place ++ t)) = place ++ t' := by
  obtain ⟨rest, rfl⟩ : ∃ rest, place = c :: rest := by
    cases place with
    | nil => cases hfirst
    | cons x rest =>
      cases hfirst
      exact ⟨rest, rfl⟩
  obtain ⟨front, hfront⟩ := List.getLast?_eq_some_iff.1 hlast
  unfold cleaned
  simp only [String.toList_ofList, List.cons_append]
  rw [List.dropWhile_cons_of_neg (by simp [not_edge_of_isCore hc]), ← List.cons_append, List.reverse_append]
  have hend : (c :: rest).reverse.dropWhile (fun x => decide (x.toNat ≤ 0x20)) = (c :: rest).reverse := by
    rw [hfront, List.reverse_append, List.reverse_singleton, List.singleton_append,
      List.dropWhile_cons_of_neg (by simp [not_edge_of_isCore hd])]
  have hfilter : (c :: rest).filter (fun x => x != '\t' && x != '\n' && x != '\r') = c :: rest :=
    List.filter_eq_self.2 hkeep
  rw [List.dropWhile_append]
  split
  · rw [hend, List.reverse_reverse, hfilter]
    exact ⟨[], (List.append_nil _).symm⟩
  · rw [List.reverse_append, List.reverse_reverse, List.filter_append, hfilter]
    exact ⟨_, rfl⟩

/-- **Nothing behind the first slash of a place can be wrong.** -/
theorem parse_isOk {scheme : List Char} {name : String} {body : List Char}
    (hscheme : ∀ t, schemeOf (scheme ++ ':' :: t) = some (name, t)) (hweb : isWeb name = false)
    (hfile : name ≠ "file") {c : Char} (hfirst : scheme.head? = some c) (hc : isCore c = true)
    (hkeep : ∀ x ∈ scheme ++ body, isKept x = true) (t t' : List Char) :
    let place := scheme ++ "://".toList ++ body ++ ['/']
    (parse (String.ofList (place ++ t))).isOk = (parse (String.ofList (place ++ t'))).isOk := by
  intro place
  have hslash : '/' ∈ body ++ ['/'] := List.mem_append_right body List.mem_cons_self
  obtain ⟨e, hfind⟩ : ∃ e, (body ++ ['/']).find? (endsAuthority false) = some e :=
    Option.isSome_iff_exists.1 (List.find?_isSome.2 ⟨'/', hslash, rfl⟩)
  obtain ⟨he, p, q, hbody, hp⟩ := List.find?_eq_some_iff_append.1 hfind
  have hp : ∀ x ∈ p, endsAuthority false x = false := fun x hx => by simpa using hp x hx
  have hstay : ∀ x ∈ place, isKept x = true := by
    intro x hx
    simp only [place, List.mem_append, List.mem_singleton] at hx hkeep
    rcases hx with ((hx | hx) | hx) | rfl
    · exact hkeep x (Or.inl hx)
    · have hmark : "://".toList.all isKept = true := by decide
      exact List.all_eq_true.1 hmark x hx
    · exact hkeep x (Or.inr hx)
    · rfl
  have hread : ∀ t, ∃ t', (parse (String.ofList (place ++ t))).isOk =
      (readAuthority name (p ++ e :: t')).isOk := by
    intro t
    have hhead : place.head? = some c := by simp [place, hfirst]
    obtain ⟨t', hclean⟩ := cleaned_append hhead hc List.getLast?_concat rfl hstay t
    have hrest : p ++ e :: (q ++ t') = body ++ ['/'] ++ t' := by
      rw [hbody, List.append_assoc, List.cons_append]
    have hparts : place ++ t' = scheme ++ ':' :: '/' :: '/' :: (p ++ e :: (q ++ t')) := by
      rw [hrest]
      simp [place]
    refine ⟨q ++ t', ?_⟩
    unfold parse
    rw [hclean, hparts, hscheme]
    simp only [hweb, Bool.false_eq_true, if_false, beq_iff_eq, hfile]
    cases readAuthority name (p ++ e :: (q ++ t')) <;> rfl
  obtain ⟨r, hr⟩ := hread t
  obtain ⟨r', hr'⟩ := hread t'
  rw [hr, hr']
  exact readAuthority_isOk hweb hp he r r'

end EventBroker.Url
