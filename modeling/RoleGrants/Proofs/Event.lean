import RoleGrants.Program.Lemmas

/-! What a program does, event by event. `Program.After` relates a program to what is left of it
after some events, whatever the answers to what it asks are. -/

namespace RoleGrants

/-- Something that a program does, with what comes of it. -/
inductive Event where
  | judged (verdict : Verdict) (moment : Int)
  | reported (item : Report) (result : Except Failure Unit)
  | called (request : StoreCall) (answer : Except Failure request.Answer)

namespace Program

/-- What is left of a program after one event, with any answer to what it asks. -/
inductive Resumes {α : Type} : Program α → Event → Program α → Prop
  | judge {verdict : Verdict} {next : Int → Program α} (moment : Int) :
      Resumes (.judge verdict next) (.judged verdict moment) (next moment)
  | report {item : Report} {next : Except Failure Unit → Program α}
      (result : Except Failure Unit) :
      Resumes (.report item next) (.reported item result) (next result)
  | call {request : StoreCall} {next : Except Failure request.Answer → Program α}
      (answer : Except Failure request.Answer) :
      Resumes (.call request next) (.called request answer) (next answer)

theorem resumes_judge {α : Type} {program : Program α} {verdict : Verdict}
    {next : Int → Program α} (h : program = .judge verdict next) (moment : Int) :
    program.Resumes (.judged verdict moment) (next moment) := h ▸ .judge moment

theorem resumes_report {α : Type} {program : Program α} {item : Report}
    {next : Except Failure Unit → Program α} (h : program = .report item next)
    (result : Except Failure Unit) :
    program.Resumes (.reported item result) (next result) := h ▸ .report result

theorem resumes_call {α : Type} {program : Program α} {request : StoreCall}
    {next : Except Failure request.Answer → Program α} (h : program = .call request next)
    (answer : Except Failure request.Answer) :
    program.Resumes (.called request answer) (next answer) := h ▸ .call answer

/-- What is left of a program after some events. -/
inductive After {α : Type} (program : Program α) : List Event → Program α → Prop
  | start : After program [] program
  | step {past : List Event} {event : Event} {middle rest : Program α} :
      After program past middle → Resumes middle event rest → After program (past ++ [event]) rest

end Program

end RoleGrants
