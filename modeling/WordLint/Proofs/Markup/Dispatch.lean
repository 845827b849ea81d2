import Mathlib
import WordLint.Proofs.Markup.Delivery

/-!
# Who is called with which event

Receivers may subscribe and give up while an event is delivered, for themselves and for others, and may be
subscribed several times.

**The law** (`called_as_subscribed`): an event is for those that are subscribed when its delivery begins. They
are called once for each subscription, in the order of the subscriptions, those to the kind of the event
before those to all events, whatever they do meanwhile; what they do counts from the next event on. And a
subscription that is given up is the earliest of its receiver under its name, with nothing else changed.

`noting` makes calls observable: it keeps a list of the calls, which the receivers do not see. `Notes` says
what a noted run has to do with the run itself, and there is one such lemma for each action that delivers.
-/

namespace WordLint

/-! ## Subscribing and giving up -/

namespace Subscriptions

variable {α : Type}

theorem under_append (s t : Subscriptions α) (name : String) :
    under (s ++ t) name = under s name ++ under t name :=
  List.filterMap_append

theorem under_cons (entry : String × α) (s : Subscriptions α) (name : String) :
    under (entry :: s) name = (if entry.1 = name then [entry.2] else []) ++ under s name := by
  unfold under
  by_cases h : entry.1 = name
  · simp [h]
  · simp [h]

theorem mem_under_iff {s : Subscriptions α} {name : String} {receiver : α} :
    receiver ∈ s.under name ↔ (name, receiver) ∈ s := by
  simp [under]

/-- Who subscribes comes last under the name, and every other name is left as it is. -/
theorem under_add (s : Subscriptions α) (name : String) (receiver : α) (other : String) :
    (s.add name receiver).under other = s.under other ++ if name = other then [receiver] else [] := by
  rw [add, under_append, under_cons]
  exact congrArg _ (List.append_nil _)

variable [DecidableEq α]

theorem has_iff {s : Subscriptions α} {name : String} {receiver : α} :
    s.has name receiver = true ↔ receiver ∈ s.under name := by
  rw [has, List.contains_iff_mem, mem_under_iff]

/-- A subscription that is given up is taken out at its first place. -/
theorem remove_of_has {s : Subscriptions α} {name : String} {receiver : α}
    (h : s.has name receiver = true) :
    ∃ front rest, s = front ++ (name, receiver) :: rest ∧ (name, receiver) ∉ front ∧
      s.remove name receiver = front ++ rest := by
  have hmem : (name, receiver) ∈ s := mem_under_iff.mp (has_iff.mp h)
  obtain ⟨front, rest, hfront, hs, hremoved⟩ := List.exists_erase_eq hmem
  exact ⟨front, rest, hs, hfront, hremoved⟩

theorem remove_of_not_has {s : Subscriptions α} {name : String} {receiver : α}
    (h : s.has name receiver = false) : s.remove name receiver = s := by
  refine List.erase_of_not_mem fun hmem => ?_
  rw [has_iff.mpr (mem_under_iff.mpr hmem)] at h
  cases h

/-- What is left under each name. -/
theorem under_remove (s : Subscriptions α) (name : String) (receiver : α) (other : String) :
    (s.remove name receiver).under other =
      if name = other then (s.under other).erase receiver else s.under other := by
  cases h : s.has name receiver with
  | false =>
    rw [remove_of_not_has h]
    split
    next heq =>
      subst heq
      refine (List.erase_of_not_mem fun hmem => ?_).symm
      rw [has_iff.mpr hmem] at h
      cases h
    next => rfl
  | true =>
    obtain ⟨front, rest, rfl, hfront, hremoved⟩ := remove_of_has h
    rw [hremoved, under_append, under_append, under_cons]
    split
    next heq =>
      subst heq
      rw [List.erase_append_right _ (mt mem_under_iff.mp hfront)]
      simp
    next => rfl

end Subscriptions

namespace Parser

open Markup Subscriptions

variable {α σ ε ω : Type}

/-! ## Noting the calls -/

/-- An outcome, with a list of calls beside what the receivers keep. -/
def noted (calls : List (α × Event)) : EStateM.Result ω (Subscriptions α × σ) Unit →
    EStateM.Result ω (Subscriptions α × σ × List (α × Event)) Unit
  | .ok u o => .ok u (o.1, o.2, calls)
  | .error stop o => .error stop (o.1, o.2, calls)

/-- Receivers do what they do, and the call is noted behind those before. -/
def noting (call : Call α σ ε) : Call α (σ × List (α × Event)) ε := fun receiver e o =>
  noted (o.2.2 ++ [(receiver, e)]) (call receiver e (o.1, o.2.1))

/-- A parser with a list of calls beside what its receivers keep. -/
def keeping (p : Parser α σ) (calls : List (α × Event)) : Parser α (σ × List (α × Event)) :=
  { p with memory := (p.memory, calls) }

/-- From a state, `y` does what `x` does, and notes the calls that are `due`: all of them, or the first of
them if it is stopped. -/
def Notes (y : EStateM ω (Subscriptions α × σ × List (α × Event)) Unit)
    (x : EStateM ω (Subscriptions α × σ) Unit) (o : Subscriptions α × σ) (due : List (α × Event)) : Prop :=
  ∀ calls, ∃ made, y (o.1, o.2, calls) = noted (calls ++ made) (x o) ∧ made <+: due ∧
    ∀ o', x o = .ok () o' → made = due

section Notes

variable {y y' : EStateM ω (Subscriptions α × σ × List (α × Event)) Unit}
variable {x x' : EStateM ω (Subscriptions α × σ) Unit}
variable {o : Subscriptions α × σ} {due due' : List (α × Event)}

theorem Notes.pure : Notes (pure ()) (pure () : EStateM ω (Subscriptions α × σ) Unit) o [] := by
  intro calls
  refine ⟨[], ?_, List.nil_prefix, fun _ _ => rfl⟩
  rw [List.append_nil]
  rfl

/-- One action behind another. Nothing is due of the second if the first is stopped, and so it does not
matter what would be. -/
theorem Notes.bind (h : Notes y x o due) (h' : ∀ o', x o = .ok () o' → Notes y' x' o' due') :
    Notes (do y; y') (do x; x') o (due ++ due') := by
  intro calls
  obtain ⟨made, hy, hprefix, hall⟩ := h calls
  cases hx : x o with
  | ok u o' =>
    obtain rfl := hall o' hx
    obtain ⟨more, hy', hprefix', hall'⟩ := h' o' hx (calls ++ made)
    rw [hx] at hy
    refine ⟨made ++ more, ?_, (List.prefix_append_right_inj made).mpr hprefix', ?_⟩
    · rw [bind_of_ok hy, bind_of_ok hx, ← List.append_assoc]
      exact hy'
    · rw [bind_of_ok hx]
      exact fun o'' hok => congrArg (made ++ ·) (hall' o'' hok)
  | error stop o' =>
    rw [hx] at hy
    refine ⟨made, ?_, hprefix.trans (List.prefix_append _ _), ?_⟩
    · rw [bind_of_error hy, bind_of_error hx]
      rfl
    · rw [bind_of_error hx]
      exact fun _ hok => nomatch hok

/-- The reason for which an action is stopped may be given in another form. -/
theorem Notes.adapt {ω' : Type} (f : ω → ω') (h : Notes y x o due) :
    Notes (EStateM.adaptExcept f y) (EStateM.adaptExcept f x) o due := by
  intro calls
  obtain ⟨made, hy, hprefix, hall⟩ := h calls
  refine ⟨made, ?_, hprefix, ?_⟩
  · rw [EStateM.adaptExcept, EStateM.adaptExcept, hy]
    cases x o with
    | ok u o' => rfl
    | error stop o' => rfl
  · intro o' hok
    rw [EStateM.adaptExcept] at hok
    cases hx : x o with
    | ok u o'' => exact hall o'' hx
    | error stop o'' =>
      rw [hx] at hok
      cases hok

end Notes

/-! ## One event -/

/-- A call is noted. -/
theorem noting_notes (call : Call α σ ε) (receiver : α) (e : Event) (o : Subscriptions α × σ) :
    Notes (noting call receiver e) (call receiver e) o [(receiver, e)] :=
  fun _ => ⟨[(receiver, e)], rfl, List.prefix_rfl, fun _ _ => rfl⟩

/-- The receivers are fixed before the first of them is called, so what they do is of no account here. -/
theorem callAll_notes (call : Call α σ ε) (e : Event) (receivers : List α) :
    ∀ o, Notes (callAll (noting call) e receivers) (callAll call e receivers) o
      (receivers.map (·, e)) := by
  induction receivers with
  | nil => exact fun _ => .pure
  | cons receiver rest ih =>
    exact fun o => (noting_notes call receiver e o).bind fun o' _ => ih o'

/-- An event is for those that are subscribed when its delivery begins. -/
theorem delivery_notes (call : Call α σ ε) (e : Event) (o : Subscriptions α × σ) :
    Notes (delivery (noting call) e) (delivery call e) o ((o.1.receivers e.kind).map (·, e)) := by
  refine Notes.adapt Stop.receiver fun calls => ?_
  rw [announce_apply, show o = (o.1, o.2) from rfl, announce_apply]
  exact callAll_notes call e (o.1.receivers e.kind) o calls

/-! ## Event after event -/

/-- The subscriptions when the delivery of each event begins: those that the deliveries before it have
left. -/
def moments (call : Call α σ ε) (es : List Event) (o : Subscriptions α × σ) : List (Subscriptions α) :=
  (List.range es.length).map fun i => (left (deliveries call (es.take i) o)).1

/-- The calls that events are to lead to: each event is for those that are subscribed when its delivery
begins, first under the name of its kind and then to all events. -/
def due (call : Call α σ ε) (es : List Event) (o : Subscriptions α × σ) : List (α × Event) :=
  (List.zipWith (fun (s : Subscriptions α) e => (s.under e.kind.name ++ s.under allEvents).map (·, e))
    (moments call es o) es).flatten

theorem moments_cons (call : Call α σ ε) (e : Event) (es : List Event) (o : Subscriptions α × σ) :
    moments call (e :: es) o =
      o.1 :: (List.range es.length).map fun i => (left (deliveries call (e :: es.take i) o)).1 := by
  rw [moments, List.length_cons, List.range_succ_eq_map, List.map_cons, List.map_map]
  rfl

/-- An event that is delivered in full, and those behind it. -/
theorem due_cons_of_ok {call : Call α σ ε} {e : Event} {o o' : Subscriptions α × σ}
    (h : delivery call e o = .ok () o') (es : List Event) :
    due call (e :: es) o = (o.1.receivers e.kind).map (·, e) ++ due call es o' := by
  have hmoments : moments call (e :: es) o = o.1 :: moments call es o' := by
    rw [moments_cons, moments]
    refine congrArg (o.1 :: ·) (List.map_congr_left fun i _ => ?_)
    rw [deliveries, bind_of_ok h]
  rw [due, hmoments]
  rfl

/-- Even where an event is not delivered in full, the calls that are due begin with those for it. -/
theorem prefix_due_cons (call : Call α σ ε) (e : Event) (es : List Event) (o : Subscriptions α × σ) :
    (o.1.receivers e.kind).map (·, e) <+: due call (e :: es) o := by
  rw [due, moments_cons]
  exact List.prefix_append _ _

/-- Events one after the other lead to the calls that are due. -/
theorem deliveries_notes (call : Call α σ ε) (es : List Event) :
    ∀ o, Notes (deliveries (noting call) es) (deliveries call es) o (due call es o) := by
  induction es with
  | nil => exact fun _ => .pure
  | cons e es ih =>
    intro o
    obtain ⟨later, hdue⟩ := prefix_due_cons call e es o
    rw [← hdue]
    refine (delivery_notes call e o).bind fun o' hok => ?_
    have hlater : later = due call es o' :=
      List.append_cancel_left (hdue.trans (due_cons_of_ok hok es))
    rw [hlater]
    exact ih o'

/-! ## Whole documents -/

/-- Deliveries are stopped by receivers only. -/
theorem deliveries_error {call : Call α σ ε} {es : List Event} :
    ∀ {o o' : Subscriptions α × σ} {stop : Stop ε},
      deliveries call es o = .error stop o' → ∃ error, stop = .receiver error := by
  induction es with
  | nil => exact fun h => nomatch h
  | cons e es ih =>
    intro o o' stop h
    cases hfirst : delivery call e o with
    | ok u o'' =>
      rw [deliveries, bind_of_ok hfirst] at h
      exact ih h
    | error first o'' =>
      rw [deliveries, bind_of_error hfirst] at h
      cases h
      unfold delivery EStateM.adaptExcept at hfirst
      split at hfirst
      · cases hfirst
        exact ⟨_, rfl⟩
      · cases hfirst

/-- A document leads to the calls that are due for its events. Its fault comes behind all of them, so only
a receiver can keep one of them from being made. -/
theorem hearing_notes (call : Call α σ ε) (r : Reading) (o : Subscriptions α × σ)
    (calls : List (α × Event)) :
    ∃ made, hearing (noting call) r (o.1, o.2, calls) = noted (calls ++ made) (hearing call r o) ∧
      made <+: due call r.events o ∧
      ((∀ error o', hearing call r o ≠ .error (.receiver error) o') → made = due call r.events o) := by
  obtain ⟨made, hy, hprefix, hall⟩ := deliveries_notes call r.events o calls
  refine ⟨made, ?_, hprefix, ?_⟩
  · cases hx : deliveries call r.events o with
    | ok u o' =>
      rw [hx] at hy
      rw [hearing, bind_of_ok hy, hearing, bind_of_ok hx]
      cases r.fault with
      | none => rfl
      | some fault => rfl
    | error stop o' =>
      rw [hx] at hy
      rw [hearing, bind_of_error hy, hearing, bind_of_error hx]
      rfl
  · intro hreceivers
    cases hx : deliveries call r.events o with
    | ok u o' => exact hall o' hx
    | error stop o' =>
      obtain ⟨error, rfl⟩ := deliveries_error hx
      exact absurd (bind_of_error hx) (hreceivers error o')

/-- **Receivers are called as they are subscribed**, whatever they do when they are called. Events that are
delivered one after the other lead to the calls that are due, and so does a document; if a receiver stops
that, to the first of them. Who subscribes comes last under the name. A receiver is subscribed under a name
if it has a subscription there; the earliest of these is given up, and all others stay in their order. -/
theorem called_as_subscribed [DecidableEq α] (call : Call α σ ε) :
    (∀ (es : List Event) (o : Subscriptions α × σ) (calls : List (α × Event)), ∃ made,
      deliveries (noting call) es (o.1, o.2, calls) = noted (calls ++ made) (deliveries call es o) ∧
      made <+: due call es o ∧ ∀ o', deliveries call es o = .ok () o' → made = due call es o) ∧
    (∀ (html : String) (p : Parser α σ) (calls : List (α × Event)), ∃ made,
      seen (parse (noting call) html (p.keeping calls)) = noted (calls ++ made) (seen (parse call html p)) ∧
      made <+: due call (read html).events p.outside ∧
      ((∀ error o', seen (parse call html p) ≠ .error (.receiver error) o') →
        made = due call (read html).events p.outside)) ∧
    ∀ (s : Subscriptions α) (name : String) (receiver : α),
      (∀ other, (s.add name receiver).under other =
        s.under other ++ if name = other then [receiver] else []) ∧
      (s.has name receiver = true ↔ receiver ∈ s.under name) ∧
      (s.has name receiver = false → s.remove name receiver = s) ∧
      (s.has name receiver = true → ∃ front rest, s = front ++ (name, receiver) :: rest ∧
        (name, receiver) ∉ front ∧ s.remove name receiver = front ++ rest) ∧
      ∀ other, (s.remove name receiver).under other =
        if name = other then (s.under other).erase receiver else s.under other := by
  refine ⟨deliveries_notes call, fun html p calls => ?_, fun s name receiver => ?_⟩
  · rw [seen_parse, seen_parse]
    exact hearing_notes call (read html) p.outside calls
  · exact ⟨under_add s name receiver, has_iff, remove_of_not_has, remove_of_has,
      under_remove s name receiver⟩

/-- Called for the first time, `"a"` gives up both its subscriptions; the second still counts for that
event. -/
example : ((((Audience.empty.add "text" "a" true).add "text" "b" false).add "text" "a" true).hear
      "x<i>y").2.map (fun c => (c.1, c.2.raw)) =
    [("a", "x"), ("b", "x"), ("a", "x"), ("b", "y")] := by
  cbv

end Parser

end WordLint
