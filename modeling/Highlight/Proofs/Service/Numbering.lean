import Highlight.Proofs.Service.Run
import Highlight.Proofs.Token.Delta
import Std.Data.String.ToNat

/-!
Contract: the ids of the arrays that a run serves.

Owns: the list of documents and ids served in a history, and its numbering: as
long as the counter does not come round, the ids are the numerals from zero on,
in the order in which they were served. An id that was served is therefore never
the next one.
-/

set_option autoImplicit false

namespace Highlight

/-- Whatever form the answer has, it carries the id of the array that was written. -/
theorem RequestForm.resultId?_answer_written
    (form : RequestForm)
    (tokens : TokenArray)
    (outcome : StoreOutcome) :
    (form.answer (.ok (.written tokens outcome))).resultId? = tokens.resultId := by
  match form, outcome with
  | .full, _ => rfl
  | .delta _, .superseded _ => rfl
  | .delta _, .stored none => rfl
  | .delta held, .stored (some previous) =>
      have answerEq :
          (RequestForm.delta held).answer (.ok (.written tokens (.stored (some previous)))) =
            .delta (.ok (previous.deltaOrFull tokens held)) := rfl
      rw [answerEq, TokenArray.deltaOrFull]
      split
      · exact TokenArray.delta_resultId previous tokens
      · rfl

variable [UrlReading]

def served (history : List Exchange) : List (Url × String) :=
  history.filterMap Exchange.served?

theorem served_append (first second : List Exchange) :
    served (first ++ second) = served first ++ served second :=
  List.filterMap_append

theorem length_served_le_append (first second : List Exchange) :
    (served first).length ≤ (served (first ++ second)).length := by
  rw [served_append, List.length_append]
  exact Nat.le_add_right _ _

theorem mem_served_iff (history : List Exchange) (entry : Url × String) :
    entry ∈ served history ↔ ∃ exchange ∈ history, exchange.served? = some entry :=
  List.mem_filterMap

namespace Server

theorem Quiet.served?_eq_none
    {server : Server}
    {message : Message}
    (quiet : server.Quiet message) :
    Exchange.served? ⟨message, server.react message⟩ = none := by
  rw [Exchange.served?, quiet.nothing.resultId?_eq_none]
  cases message.document? <;> rfl

theorem Serves.resultId?_eq_some
    {server : Server}
    {message : Message}
    {form : RequestForm}
    {url : Url}
    {data : List WireToken}
    {version : Option Int}
    (serves : server.Serves message form url data version) :
    (server.react message).answer.resultId? = some (IdSource.text server.session.ids.next) := by
  rw [serves.answer, RequestForm.resultId?_answer_written]
  rfl

theorem Serves.served?_eq_some
    {server : Server}
    {message : Message}
    {form : RequestForm}
    {url : Url}
    {data : List WireToken}
    {version : Option Int}
    (serves : server.Serves message form url data version) :
    Exchange.served? ⟨message, server.react message⟩ =
      some (url, IdSource.text server.session.ids.next) := by
  rw [Exchange.served?, serves.document, serves.resultId?_eq_some]

end Server

/-- The counter stands at the number of arrays served, and their ids are the numerals below it. -/
structure Numbered (history : List Exchange) (server : Server) : Prop where
  counter : server.session.ids.next.toNat = (served history).length
  numerals :
    (served history).map Prod.snd = (List.range (served history).length).map Nat.repr

namespace Numbered

/-- The next id is the numeral of the number of arrays served so far. -/
theorem next_text
    {history : List Exchange}
    {server : Server}
    (numbered : Numbered history server) :
    IdSource.text server.session.ids.next = Nat.repr (served history).length := by
  rw [IdSource.text, numbered.counter]

/-- An id that was served is not the next one. -/
theorem ne_next_of_mem
    {history : List Exchange}
    {server : Server}
    (numbered : Numbered history server)
    {url : Url}
    {id : String}
    (member : (url, id) ∈ served history) :
    id ≠ IdSource.text server.session.ids.next := by
  have isNumeral : id ∈ (List.range (served history).length).map Nat.repr := by
    rw [← numbered.numerals]
    exact List.mem_map.mpr ⟨(url, id), member, rfl⟩
  obtain ⟨number, below, rfl⟩ := List.mem_map.mp isNumeral
  rw [numbered.next_text]
  intro same
  have numbers := Nat.repr_injective same
  rw [List.mem_range] at below
  omega

theorem step
    {history : List Exchange}
    {server : Server}
    (numbered : Numbered history server)
    (message : Message)
    (fits : (served (history ++ [⟨message, server.react message⟩])).length < 2 ^ 64) :
    Numbered (history ++ [⟨message, server.react message⟩]) (server.react message).server := by
  rcases server.react_cases message with quiet | ⟨form, url, data, version, serves⟩
  · have same : served (history ++ [⟨message, server.react message⟩]) = served history := by
      rw [served_append, served, served, List.filterMap_cons, quiet.served?_eq_none]
      simp
    refine ⟨?_, ?_⟩
    · rw [same, quiet.sameIds, numbered.counter]
    · rw [same, numbered.numerals]
  · have extended :
        served (history ++ [⟨message, server.react message⟩]) =
          served history ++ [(url, IdSource.text server.session.ids.next)] := by
      rw [served_append, served, served, List.filterMap_cons, serves.served?_eq_some]
      simp
    rw [extended, List.length_append, List.length_singleton] at fits
    refine ⟨?_, ?_⟩
    · rw [extended, serves.takesId, List.length_append, List.length_singleton, UInt64.toNat_add,
        numbered.counter]
      exact Nat.mod_eq_of_lt fits
    · rw [extended, List.map_append, numbered.numerals, List.length_append, List.length_singleton,
        List.range_succ, List.map_append, List.map_singleton, List.map_singleton,
        numbered.next_text]

end Numbered

/-- Along every run, the ids served are the numerals from zero on. -/
theorem numbered_trace
    (messages : List Message)
    (fits : (served (Server.fresh.trace messages)).length < 2 ^ 64) :
    Numbered (Server.fresh.trace messages) (Server.fresh.after messages) := by
  have run := Server.trace_induction
    (fun history server => (served history).length < 2 ^ 64 → Numbered history server)
    Server.fresh (fun _ => ⟨rfl, rfl⟩) ?_ messages
  · exact run fits
  · intro history current message holds fitsNow
    have fitsBefore := Nat.lt_of_le_of_lt (length_served_le_append history _) fitsNow
    exact (holds fitsBefore).step message fitsNow

end Highlight
