import RoleGrants.Proofs.Soundness

/-! What passes account for. Each attempt to create a binding owes a count of how it ended. A
history is balanced if the creations counted in it are those that its attempts owe, as far as they
are accounted for. A pass keeps the balance if its chart has attempts only where they are counted,
or need not be. -/

namespace RoleGrants

open DryRun

namespace Counter

def isError : Counter → Bool
  | .creations _ result => result == "error"
  | _ => false

end Counter

/-- How an attempt to create a binding is counted. -/
def attemptResult : Except Failure Binding → String
  | .ok _ => "created"
  | .error (.store .alreadyExists _) => "exists"
  | .error _ => "error"

theorem attemptResult_failed {failure : Failure}
    (h : ∀ message, failure ≠ .store .alreadyExists message) :
    attemptResult (.error failure) = "error" := by
  unfold attemptResult
  split
  · next heq => cases heq
  · next message heq =>
    cases heq
    exact absurd rfl (h message)
  · rfl

namespace Event

/-- The counter that an event moves. -/
def count? : Event → Option Counter
  | .reported (.count counter) _ => some counter
  | _ => none

/-- The counter that an attempt to create a binding owes. -/
def attempt? : Event → Option Counter
  | .called (.createBinding binding) answer =>
    some (.creations binding.kind (attemptResult answer))
  | _ => none

end Event

/-- Whether a call is no attempt to create a binding. -/
def StoreCall.IsIdle : StoreCall → Prop
  | .createBinding _ => False
  | _ => True

/-- Whether a report counts neither an attempt nor a pass. -/
def Report.IsIdle : Report → Prop
  | .count counter => counter.isCreation = false ∧ counter.isPass = false
  | _ => True

def Event.IsIdle : Event → Prop
  | .judged _ _ => True
  | .reported item _ => item.IsIdle
  | .called request _ => request.IsIdle

def countsIn (past : List Event) : List Counter := past.filterMap Event.count?

def attemptsIn (past : List Event) : List Counter := past.filterMap Event.attempt?

/-- Whether the creations counted in some events are those that their attempts owe, as far as they
are accounted for, and `passes` are the passes counted. -/
structure Balanced (counted : Counter → Bool) (passes : List Counter) (past : List Event) :
    Prop where
  creations : (countsIn past).filter Counter.isCreation = (attemptsIn past).filter counted
  passes : (countsIn past).filter Counter.isPass = passes

theorem countsIn_append (past more : List Event) :
    countsIn (past ++ more) = countsIn past ++ countsIn more := List.filterMap_append

theorem attemptsIn_append (past more : List Event) :
    attemptsIn (past ++ more) = attemptsIn past ++ attemptsIn more := List.filterMap_append

namespace Balanced

variable {counted : Counter → Bool} {passes : List Counter} {past : List Event}

theorem start : Balanced counted [] [] := ⟨rfl, rfl⟩

/-- Histories that are balanced are so one after another. -/
theorem append {closed : List Counter} {more : List Event} (h : Balanced counted passes past)
    (hmore : Balanced counted closed more) :
    Balanced counted (passes ++ closed) (past ++ more) where
  creations := by
    rw [countsIn_append, attemptsIn_append, List.filter_append, List.filter_append, h.creations,
      hmore.creations]
  passes := by rw [countsIn_append, List.filter_append, h.passes, hmore.passes]

theorem of_idle {event : Event} (h : event.IsIdle) : Balanced counted [] [event] := by
  cases event with
  | judged verdict moment => exact ⟨rfl, rfl⟩
  | reported item result =>
    cases item with
    | count counter =>
      obtain ⟨hcreation, hpass⟩ := h
      constructor
      · exact List.filter_cons_of_neg (by simp [hcreation])
      · exact List.filter_cons_of_neg (by simp [hpass])
    | _ => exact ⟨rfl, rfl⟩
  | called request answer =>
    cases request with
    | createBinding binding => exact h.elim
    | _ => exact ⟨rfl, rfl⟩

/-- An attempt that is counted is in balance with its count. -/
theorem of_counted {binding : Binding} {answer : Except Failure Binding}
    (hcounted : counted (.creations binding.kind (attemptResult answer)) = true)
    (result : Except Failure Unit) :
    Balanced counted [] [.called (.createBinding binding) answer,
      .reported (.count (.creations binding.kind (attemptResult answer))) result] where
  creations := by
    change [Counter.creations binding.kind (attemptResult answer)] =
      [Counter.creations binding.kind (attemptResult answer)].filter counted
    rw [List.filter_cons_of_pos hcounted]
    rfl
  passes := rfl

/-- An attempt that is not accounted for is in balance without a count. -/
theorem of_uncounted {binding : Binding} {answer : Except Failure Binding}
    (hcounted : counted (.creations binding.kind (attemptResult answer)) = false) :
    Balanced counted [] [.called (.createBinding binding) answer] where
  creations := by
    change [] = [Counter.creations binding.kind (attemptResult answer)].filter counted
    rw [List.filter_cons_of_neg (by simp [hcounted])]
    rfl
  passes := rfl

theorem idle {event : Event} (h : Balanced counted passes past) (hidle : event.IsIdle) :
    Balanced counted passes (past ++ [event]) := by
  simpa only [List.append_nil] using h.append (of_idle hidle)

theorem settle (h : Balanced counted passes past) (binding : Binding)
    (answer : Except Failure Binding)
    (hcounted : counted (.creations binding.kind (attemptResult answer)) = true)
    (result : Except Failure Unit) :
    Balanced counted passes (past ++ [.called (.createBinding binding) answer] ++
      [.reported (.count (.creations binding.kind (attemptResult answer))) result]) := by
  rw [List.append_assoc, List.singleton_append]
  simpa only [List.append_nil] using h.append (of_counted hcounted result)

theorem pass (h : Balanced counted passes past) (binding : Binding)
    (answer : Except Failure Binding)
    (hcounted : counted (.creations binding.kind (attemptResult answer)) = false) :
    Balanced counted passes (past ++ [.called (.createBinding binding) answer]) := by
  simpa only [List.append_nil] using h.append (of_uncounted hcounted)

theorem close (h : Balanced counted [] past) (controller outcome : String)
    (result : Except Failure Unit) :
    Balanced counted [.passes controller outcome]
      (past ++ [.reported (.count (.passes controller outcome)) result]) :=
  h.append ⟨rfl, rfl⟩

end Balanced

/-! ### Histories under a regime -/

namespace Regime

variable {regime : Regime Unit}

/-- The logic of the histories in which calls are answered under a regime. -/
def history (regime : Regime Unit) : Logic (List Event) where
  judge past verdict post := ∀ moment, regime.shows moment →
    post moment (past ++ [.judged verdict moment])
  report past item post := post item.result (past ++ [.reported item item.result])
  call past request post := ∀ answer, regime.answers () request answer () →
    post answer (past ++ [.called request answer])
  judge_mono h hpost moment hshown := hpost _ _ (h moment hshown)
  report_mono h hpost := hpost _ _ h
  call_mono h hpost answer hanswer := hpost _ _ (h answer hanswer)

theorem leads_history {past : List Event} {first last : Unit}
    (h : regime.logic.Leads first past last) : regime.history.Leads [] past past := by
  induction h with
  | start => exact .start
  | step _ hallows ih =>
    refine ih.step ?_
    cases hallows with
    | judged hjudged =>
      exact .judged fun _ hpost =>
        hpost _ (hjudged (fun moment _ => regime.shows moment) fun _ hshown => hshown)
    | @reported item result _ hreported =>
      have hresult : result = item.result := hreported (fun other _ => other = item.result) rfl
      subst hresult
      exact .reported fun _ hpost => hpost
    | @called request answer _ hcalled =>
      exact .called fun _ hpost => hpost answer
        (hcalled (fun other _ => regime.answers () request other ()) fun _ _ hanswer => hanswer)

end Regime

namespace Balanced

variable {α : Type} {counted : Counter → Bool} {passes : List Counter} {past : List Event}
  {bad : List Event → Failure → Prop} {point : List Event → Prop}

theorem takes {item : Report} (hpoint : point (past ++ [.reported item (.ok ())]))
    (hresult : item.result = .ok ()) : Regime.sound.history.Takes bad point item past := by
  change (item.result = .ok () → _) ∧ _
  rw [hresult]
  exact ⟨fun _ => hpoint, nofun⟩

/-- The balance is kept while lines are reported. -/
theorem rests :
    Regime.sound.history.Rests bad (fun later => Balanced counted passes later) := by
  intro item hline past hbalanced
  cases item with
  | log level text => exact takes (hbalanced.idle trivial) rfl
  | count counter => exact takes (hbalanced.idle hline) rfl
  | _ => exact hline.elim

theorem holds_ask {request : StoreCall} (h : Balanced counted passes past)
    (hidle : request.IsIdle) {good : List Event → request.Answer → Prop}
    (hgood : ∀ later value, Balanced counted passes later → good later value)
    (hbad : ∀ later failure, Balanced counted passes later → bad later failure) :
    (Program.ask request).Holds Regime.sound.history good bad past := by
  rintro (failure | value) -
  · exact hbad _ _ (h.idle hidle)
  · exact hgood _ _ (h.idle hidle)

theorem holds_idle {result : Except Failure α} {event : Event} (h : Balanced counted passes past)
    (hidle : event.IsIdle) :
    (Program.ofExcept result).Holds Regime.sound.history
      (fun later _ => Balanced counted passes later) (fun later _ => Balanced counted passes later)
      (past ++ [event]) :=
  Program.holds_ofExcept.mpr ⟨fun _ _ => h.idle hidle, fun _ _ => h.idle hidle⟩

/-- The event after an attempt is its count, if it is to be counted. -/
theorem attempted {purpose : String} {binding : Binding} {isCounted : Bool}
    (hcounted : ∀ kind result, counted (.creations kind result) = (isCounted || result != "error"))
    (h : Balanced counted [] past) :
    Regime.sound.history.call past (.createBinding binding) fun answer later =>
      Attempted Regime.sound.history (fun later _ => Balanced counted [] later) purpose binding
        isCounted (fun _ later => Balanced counted [] later) answer later := by
  rintro answer hsound
  constructor
  · rintro value rfl
    exact takes (h.settle binding (.ok value) (by simp [hcounted, attemptResult]) (.ok ())) rfl
  · rintro message rfl
    exact takes (h.settle binding (.error (.store .alreadyExists message))
      (by simp [hcounted, attemptResult]) (.ok ())) rfl
  · rintro rfl failure rfl - hnew
    have hsettled := h.settle binding (.error failure) (by simp [hcounted]) (.ok ())
    rw [attemptResult_failed hnew] at hsettled
    exact takes hsettled rfl
  · rintro failure rfl hother hnew
    have hstore : failure.isStore = true := hsound
    have hnot : isCounted = false := hother.resolve_right (by simp [hstore])
    refine h.pass binding (.error failure) ?_
    simp [hcounted, hnot, attemptResult_failed hnew]

end Balanced

/-! ### Charts that keep the balance -/

/-- Whether an edge has an attempt to create a binding only where it is accounted for. -/
def Edge.Accounts {Point : Type} (counted : Counter → Bool) : Edge Point → Prop
  | .asks _ request _ => request.IsIdle
  | .finds _ request _ _ => request.IsIdle
  | .reports item _ => item.IsIdle
  | .refuses request _ => request.IsIdle
  | .creates _ _ isCounted _ =>
    ∀ kind result, counted (.creations kind result) = (isCounted || result != "error")
  | _ => True

theorem Edge.Accounts.keeps {Point : Type} {counted : Counter → Bool} {edge : Edge Point}
    (h : edge.Accounts counted) {past : List Event}
    (hbalanced : Balanced counted [] past) :
    edge.Keeps Regime.sound.history (fun _ later => Balanced counted [] later)
      (fun later _ => Balanced counted [] later) past := by
  cases edge with
  | turns next => exact hbalanced
  | tries result next => exact ⟨fun _ _ => hbalanced, fun _ _ => hbalanced⟩
  | asks purpose request next => exact hbalanced.holds_ask h (fun _ _ => id) fun _ _ => id
  | finds purpose request found absent =>
    exact hbalanced.holds_ask h (fun _ _ => id)
      fun _ _ hlater => ⟨fun _ _ => hlater, fun _ => hlater⟩
  | judges tracker verdict next => exact fun _ _ => hbalanced.holds_idle trivial
  | reports item next =>
    have hidle : ∀ result, Event.IsIdle (.reported item result) := fun _ => h
    exact hbalanced.holds_idle (hidle _)
  | creates purpose binding isCounted next => exact hbalanced.attempted h
  | refuses request failure =>
    exact hbalanced.holds_ask h (fun _ _ => id)
      fun _ _ hlater => ⟨fun _ => hlater, fun _ => hlater⟩

/-- A pass over whose chart attempts are accounted for keeps the balance. -/
theorem Outline.of_accounts {Point : Type} {counted : Counter → Bool} {chart : Chart Point}
    (h : ∀ {point edge}, chart point edge → edge.Accounts counted) :
    Outline Regime.sound.history chart (fun _ past => Balanced counted [] past)
      (fun past _ => Balanced counted [] past) :=
  ⟨fun _ => Balanced.rests, fun _ => Balanced.rests,
    fun hedge _ hbalanced => (h hedge).keeps hbalanced⟩

end RoleGrants
