import RailWatch.Proofs.Journey.TextAndValue
import RailWatch.Proofs.Loop.Ledger
import RailWatch.Proofs.Payload.Empty
import RailWatch.Source.Live
import RailWatch.Tracker.Timeline
/-!
# RailWatch.Proofs.Loop.Causes

What the subscribers are told about a fetch, and why.

Between the answer of a source and the update that is published lie four steps: the answer may come
too late, the body may be read as a payload or not, the failure may be retryable or not, and the
tracker makes an update of it. Each has its lemma here. Put together, `Update.ToldBy` says what an
answer leads to by its cause alone: **fatal** is a body that came in time and was rejected, and
**retryable** whatever did not come with a body in time.

The main result is `Loop.updates_by_cause`. It also speaks of servers, whose responses may have a
status of failure and a body that is a payload. Nothing is assumed about the exchange with a server:
the address may have any scheme, and the response may be the last of many.
-/

namespace RailWatch

open Json

/-! ### What a body says -/

namespace Journey

open Payload

/-- The train does not run exactly if the payload is the empty list. -/
theorem ofText_eq_notFound_iff {id text : String} :
    ofText id text = .ok .notFound ↔ Denotes text.toList (.list []) := by
  rw [← readDays_eq_nil_iff, ofText]
  cases readDays text.toList with
  | error fault => simp
  | ok days =>
      cases days with
      | nil => simp [ofDays]
      | cons day rest => cases h : ofDay id day <;> simp [ofDays, Except.map, h]

end Journey

/-! ### How a fetch ends -/

/-- The answer brings this body within the budget. -/
def Answer.Brings (a : Answer) (budget : Duration) (body : String) : Prop :=
  a.ending = .replied (.ok body) ∧ a.delay.nanos ≤ budget.nanos

/-- The answer brings no body within the budget: the source replies with an error or not at all, the
task dies, or whatever comes of it comes too late. -/
def Answer.Fails (a : Answer) (budget : Duration) : Prop :=
  (∃ e, a.ending = .replied (.error e)) ∨ a.ending = .silent ∨
    (∃ words, a.ending = .died words) ∨ budget.nanos < a.delay.nanos

theorem Answer.within_eq_body_iff {a : Answer} {budget : Duration} {body : String} :
    (a.within budget).2 = .replied (.ok body) ↔ a.Brings budget body := by
  unfold within Brings
  rcases a.ending with reply | _ | words
  · by_cases h : a.delay.nanos ≤ budget.nanos <;> simp [h]
  · simp
  · by_cases h : a.delay.nanos ≤ budget.nanos <;> simp [h]

/-- An answer brings a body in time or fails. -/
theorem Answer.fails_iff {a : Answer} {budget : Duration} :
    a.Fails budget ↔ ¬∃ body, a.Brings budget body := by
  unfold Fails Brings
  rcases a.ending with (e | body) | _ | words <;> simp

namespace FetchEnding

variable {id : String} {budget : Duration} {ending : FetchEnding}

/-- The payload is at fault exactly if a body was received in time and rejected. -/
theorem result_eq_payload_iff {e : PayloadError} :
    ending.result id budget = .error (.payload e) ↔
      ∃ body, ending = .replied (.ok body) ∧ Journey.ofText id body = .error e := by
  rcases ending with (e' | body) | _ | words
  · simp [result]
  · rw [result]
    cases h : Journey.ofText id body <;> simp [h]
  · simp [result]
  · simp [result]

/-- A failure is retryable exactly if there was no body. -/
theorem exists_result_retryable_iff :
    (∃ failure, ending.result id budget = .error failure ∧ failure.isRetryable = true) ↔
      ¬∃ body, ending = .replied (.ok body) := by
  rcases ending with (e | body) | _ | words
  · simp [result, FetchFailure.isRetryable]
  · rw [result]
    cases h : Journey.ofText id body <;> simp [FetchFailure.isRetryable]
  · simp [result, FetchFailure.isRetryable]
  · simp [result, FetchFailure.isRetryable]

end FetchEnding

/-! ### What the tracker makes of it -/

theorem FetchFailure.isRetryable_eq_false_iff {failure : FetchFailure} :
    failure.isRetryable = false ↔ ∃ e, failure = .payload e := by
  cases failure <;> simp [isRetryable]

namespace Tracker

variable (t : Tracker) (result : FetchResult)

theorem told_snapshot_iff {train : Train} :
    (t.complete result).2 = .snapshot train ↔ result = .ok (.found train) := by
  rcases t.complete_cases result with ⟨found, rfl, h⟩ | ⟨rfl, h⟩ | ⟨failure, rfl, h⟩ <;> rw [h]
  · simp
  · simp
  · cases failure.isRetryable <;> simp

theorem told_unchanged_iff :
    (∃ train, (t.complete result).2 = .unchanged train) ↔ result = .ok .notFound := by
  rcases t.complete_cases result with ⟨found, rfl, h⟩ | ⟨rfl, h⟩ | ⟨failure, rfl, h⟩ <;> rw [h]
  · simp
  · simp
  · cases failure.isRetryable <;> simp

theorem told_retryable_iff :
    (∃ reason, (t.complete result).2 = .retryable reason) ↔
      ∃ failure, result = .error failure ∧ failure.isRetryable = true := by
  rcases t.complete_cases result with ⟨found, rfl, h⟩ | ⟨rfl, h⟩ | ⟨failure, rfl, h⟩ <;> rw [h]
  · simp
  · simp
  · cases hr : failure.isRetryable <;> simp [hr]

theorem told_fatal_iff :
    (∃ reason, (t.complete result).2 = .fatal reason) ↔ ∃ e, result = .error (.payload e) := by
  rcases t.complete_cases result with ⟨found, rfl, h⟩ | ⟨rfl, h⟩ | ⟨failure, rfl, h⟩ <;> rw [h]
  · simp
  · simp
  · have hpayload := failure.isRetryable_eq_false_iff
    cases hr : failure.isRetryable <;> simp_all

end Tracker

/-! ### What becomes of a response -/

theorem Response.isSuccess_iff {r : Response} :
    r.isSuccess = true ↔ 200 ≤ r.status ∧ r.status < 300 := by
  simp [isSuccess]

namespace Server

variable {s : Server} {exchange : Exchange Id} {id : String} {day : Date} {r : Response}

/-- The response that comes of asking the server about a train on a day. -/
def Gives (s : Server) (exchange : Exchange Id) (id : String) (day : Date) (r : Response) : Prop :=
  s.ask exchange id day = .ok r

/-- The server brings a body: its response has a status of success, and all of the body came. -/
def BringsBody (s : Server) (exchange : Exchange Id) (id : String) (day : Date) (body : String) :
    Prop :=
  ∃ r, s.Gives exchange id day r ∧ 200 ≤ r.status ∧ r.status < 300 ∧ r.text? = some body

/-- A reply is a body exactly if it comes of a response of success, all of which came. -/
theorem reply_eq_ok_iff {received : Except RequestError Response} {body : String} :
    reply received = .ok body ↔
      ∃ r, received = .ok r ∧ 200 ≤ r.status ∧ r.status < 300 ∧ r.text? = some body := by
  cases received with
  | error e => simp [reply]
  | ok response =>
      simp only [reply, Except.ok.injEq, exists_eq_left']
      rw [← and_assoc, ← Response.isSuccess_iff, Response.reply]
      by_cases h : response.isSuccess = true
      · rw [if_pos h]
        cases response.text? <;> simp [h]
      · simp [h]

/-- A response of which the status is none of success brings no body, whatever it says. -/
theorem not_bringsBody_of_gives (h : s.Gives exchange id day r)
    (hstatus : r.status < 200 ∨ 300 ≤ r.status) (body : String) :
    ¬s.BringsBody exchange id day body := by
  rintro ⟨r', h', hlow, hhigh, -⟩
  obtain rfl : r = r' := Except.ok.inj (h.symm.trans h')
  omega

end Server

/-- What is told about the fetch of a train goes by the cause: the answer that the source gave. -/
structure Update.ToldBy (u : Update) (id : String) (budget : Duration) (a : Answer) : Prop where
  fatal : (∃ reason, u = .fatal reason) ↔
    ∃ body e, a.Brings budget body ∧ Journey.ofText id body = .error e
  retryable : (∃ reason, u = .retryable reason) ↔ a.Fails budget
  unchanged : (∃ train, u = .unchanged train) ↔
    ∃ body, a.Brings budget body ∧ Denotes body.toList (.list [])
  snapshot : ∀ train, u = .snapshot train ↔
    ∃ body, a.Brings budget body ∧ Journey.ofText id body = .ok (.found train)

theorem Tracker.toldBy_complete (t : Tracker) (id : String) (budget : Duration) (a : Answer) :
    (t.complete ((a.within budget).2.result id budget)).2.ToldBy id budget a where
  fatal := by
    rw [told_fatal_iff]
    simp only [FetchEnding.result_eq_payload_iff, Answer.within_eq_body_iff]
    exact exists_comm
  retryable := by
    rw [told_retryable_iff, FetchEnding.exists_result_retryable_iff, Answer.fails_iff]
    simp only [Answer.within_eq_body_iff]
  unchanged := by
    rw [told_unchanged_iff, FetchEnding.result_eq_ok_iff]
    simp only [Answer.within_eq_body_iff, Journey.ofText_eq_notFound_iff]
  snapshot train := by
    rw [told_snapshot_iff, FetchEnding.result_eq_ok_iff]
    simp only [Answer.within_eq_body_iff]

namespace Loop

/-- **Updates go by their cause.** Whatever the source answers to the fetch that a loop waits for,
and however long it takes: when the fetch ends, one update is published. It is fatal exactly if a
body came in time and is rejected; retryable exactly if the source replied with an error or not in
time, or the task died; without news exactly if the body is the empty list; and otherwise it is the
snapshot that the body gives. Where the source is a server, a body comes with a status of success
only. If the response in the end has a status of failure, the update is retryable, whatever the body
of the response. -/
theorem updates_by_cause (l : Loop) {day : Date} (h : l.inFlight = some day) (a : Answer) :
    let id := l.tracker.config.trainId
    let budget := l.tracker.config.budget
    ∃ u, (l.finish (a.within budget).2).2 = [.publish u] ∧ u.ToldBy id budget a ∧
      ∀ (s : Server) (exchange : Exchange Id),
        a.ending = .replied (Server.reply (s.ask exchange id day)) →
          (∀ body, a.Brings budget body ↔
            a.delay.nanos ≤ budget.nanos ∧ s.BringsBody exchange id day body) ∧
          ∀ r, s.Gives exchange id day r → r.status < 200 ∨ 300 ≤ r.status →
            ∃ reason, u = .retryable reason := by
  intro id budget
  have htold := l.tracker.toldBy_complete id budget a
  rcases l.finish_cases (a.within budget).2 with ⟨hn, -⟩ | ⟨_, -, hc⟩
  · rw [h] at hn
    cases hn
  · refine ⟨_, congrArg Prod.snd hc, htold, fun s exchange ha => ?_⟩
    have hbrings : ∀ body, a.Brings budget body ↔
        a.delay.nanos ≤ budget.nanos ∧ s.BringsBody exchange id day body := by
      intro body
      rw [Answer.Brings, ha, FetchEnding.replied.injEq, Server.reply_eq_ok_iff, and_comm]
      rfl
    refine ⟨hbrings, fun r hgives hstatus => htold.retryable.mpr (Answer.fails_iff.mpr ?_)⟩
    rintro ⟨body, hbody⟩
    exact Server.not_bringsBody_of_gives hgives hstatus body ((hbrings body).mp hbody).2

/-- A loop that has asked about a train on the evening of 15 March 2024. -/
def eveningLoop : Loop :=
  ((start (.new (.ofId "10512"))).tick (.ofSeconds 1710543000)).1

/-- A response by which nothing was found, with a payload for a body. -/
def errorPage : Response :=
  ⟨404, [], .toEnd, Text.Utf8.encode Journey.nightText.toList⟩

/-- The address at which the server of the railway is asked about the train. -/
def eveningUrl : Url :=
  ⟨"https".toList, [], none, some "admin.trenord.it".toList, none,
    .segments ["store-management-api".toList, "mia".toList, "train".toList, "10512".toList],
    some "date=2024-03-15".toList, none⟩

/-- The body of the page would be a train. As its status says otherwise, the fetch may go better
next time. -/
theorem updates_by_cause_errorPage :
    let s : Server := .standard
    let day : Date := ⟨19797⟩
    let exchange : Exchange Id := fun url =>
      if url = eveningUrl then .ok errorPage else .error (.unanswered url)
    let a : Answer := ⟨.ofSeconds 1, .replied (Server.reply (s.ask exchange "10512" day))⟩
    eveningLoop.inFlight = some day ∧
      Journey.ofText "10512" Journey.nightText = .ok (.found Journey.nightTrain) ∧
      errorPage.text? = some Journey.nightText ∧ s.Gives exchange "10512" day errorPage ∧
      ∃ reason,
        (eveningLoop.finish (a.within (.ofSeconds 30)).2).2 = [.publish (.retryable reason)] := by
  intro s day exchange a
  have hday : eveningLoop.inFlight = some day := by decide +kernel
  have htrain : Journey.ofText "10512" Journey.nightText = .ok (.found Journey.nightTrain) := by
    decide +kernel
  have htext : errorPage.text? = some Journey.nightText := by decide +kernel
  have hrequest : s.request "10512" day = .ok eveningUrl := by decide +kernel
  have hgives : s.Gives exchange "10512" day errorPage := by
    rw [Server.Gives, Server.ask, hrequest]
    exact if_pos rfl
  obtain ⟨u, hu, -, hserver⟩ := updates_by_cause eveningLoop hday a
  obtain ⟨reason, rfl⟩ := (hserver s exchange rfl).2 errorPage hgives (by decide)
  exact ⟨hday, htrain, htext, hgives, reason, hu⟩

end Loop
end RailWatch
