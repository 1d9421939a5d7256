import SheetSuite.Proofs.Update.Atomicity

namespace SheetSuite.Update

variable {settings : Settings} {server : Http.Peer} {reception : Http.Reception}

theorem checkStatus_eq (r : Http.Reception) :
    r.checkStatus = if 400 ≤ r.answer.status ∧ r.answer.status < 600 then
      .error (.badStatus r.answer.status r.answer.reason r.url) else .ok () := by
  have classes : (Http.isClientError r.answer.status || Http.isServerError r.answer.status) = true ↔
      400 ≤ r.answer.status ∧ r.answer.status < 600 := by
    simp only [Http.isClientError, Http.isServerError, Bool.or_eq_true, Bool.and_eq_true,
      decide_eq_true_eq]
    omega
  simp only [Http.Reception.checkStatus, classes]

theorem received_of_asked (asked : (server.ask settings.timeoutSeconds settings.feedUrl).result = .ok reception) :
    received settings server = ((do reception.checkStatus; reception.text).mapError .fetch >>= fun body =>
      (Feed.decode body).mapError .feed) := by
  unfold received
  rw [asked]
  rfl

theorem received_of_refused (asked : (server.ask settings.timeoutSeconds settings.feedUrl).result = .ok reception)
    (refused : 400 ≤ reception.answer.status ∧ reception.answer.status < 600) :
    received settings server =
      .error (.fetch (.badStatus reception.answer.status reception.answer.reason reception.url)) := by
  rw [received_of_asked asked, checkStatus_eq, if_pos refused]
  rfl

theorem received_of_admitted (asked : (server.ask settings.timeoutSeconds settings.feedUrl).result = .ok reception)
    (admitted : ¬(400 ≤ reception.answer.status ∧ reception.answer.status < 600)) :
    received settings server = match reception.text with
      | .error fault => .error (.fetch fault)
      | .ok body => (Feed.decode body).mapError .feed := by
  rw [received_of_asked asked, checkStatus_eq, if_neg admitted]
  cases read : reception.text with
  | error fault => rfl
  | ok body => rfl

theorem fetch_fault_iff (settings : Settings) (server : Http.Peer) (t : FileTree) (fault : Http.Fault) :
    (run settings server).ends t = (.error (.fetch fault), t) ↔
      received settings server = .error (.fetch fault) := by
  rw [ends_run]
  constructor
  · intro ends
    split at ends
    · rename_i known
      cases ends
      exact known
    · -- Saving fails for reasons of its own.
      obtain ⟨⟨reason, impossible⟩, -⟩ := save_error ends
      cases impossible
  · intro known
    rw [known]

/-- What becomes of the answer that the server has in the end. If its status is one of those from 400 to 599,
the update fails for that reason, with the exit code of a failed download and an untouched tree. Otherwise
the update goes by the body alone, which is empty if the status allows none, and it fails for want of an answer
only if the body did not arrive. -/
theorem run_of_status (asked : (server.ask settings.timeoutSeconds settings.feedUrl).result = .ok reception)
    (t : FileTree) :
    (400 ≤ reception.answer.status ∧ reception.answer.status < 600 →
      ∃ e : Failure, e = .fetch (.badStatus reception.answer.status reception.answer.reason reception.url) ∧
        e.exitCode = 2 ∧ (run settings server).ends t = (.error e, t)) ∧
    (¬(400 ≤ reception.answer.status ∧ reception.answer.status < 600) →
      (run settings server).ends t = match reception.text with
        | .error fault => (.error (.fetch fault), t)
        | .ok body => match Feed.decode body with
          | .error error => (.error (.feed error), t)
          | .ok feed => (save settings (.onDisk settings.outputDir) (Suite.ofFeed feed)).ends t) ∧
    ((∃ fault, (run settings server).ends t = (.error (.fetch fault), t)) ↔
      400 ≤ reception.answer.status ∧ reception.answer.status < 600 ∨
        ∃ fault, reception.text = .error fault) := by
  simp only [fetch_fault_iff]
  by_cases refused : 400 ≤ reception.answer.status ∧ reception.answer.status < 600
  · have known := received_of_refused asked refused
    refine ⟨fun _ => ⟨_, rfl, rfl, ?_⟩, fun admitted => absurd refused admitted, ?_⟩
    · rw [ends_run, known]
    · exact ⟨fun _ => Or.inl refused, fun _ => ⟨_, known⟩⟩
  · have known := received_of_admitted asked refused
    refine ⟨fun h => absurd h refused, fun _ => ?_, ?_⟩
    · rw [ends_run, known]
      cases reception.text with
      | error fault => rfl
      | ok body =>
          cases decoded : Feed.decode body with
          | error error => simp [decoded, Except.mapError]
          | ok feed => simp [decoded, Except.mapError]
    · rw [known]
      cases reception.text with
      | error fault => simp
      | ok body =>
          cases decoded : Feed.decode body with
          | error error => simp [decoded, refused, Except.mapError]
          | ok feed => simp [decoded, refused, Except.mapError]

def answering (answer : Http.Answer) : Http.Server where
  address := "127.0.0.1:7070"
  fallback := .answer answer

def withRow (status : Nat) : Http.Answer where
  status := status
  body := .whole (Text.utf8 oneRow.toList)

def asking (answer : Http.Answer) : Except Http.Fault Http.Reception :=
  ((answering answer).peer.ask (constantSettings "out").timeoutSeconds (constantSettings "out").feedUrl).result

theorem run_of_status_overloaded :
    asking (withRow 503) = .ok ⟨withRow 503, "http://127.0.0.1:7070/", rfl⟩ ∧
      (run (constantSettings "out") (answering (withRow 503))).ends oldSuite =
        (.error (.fetch (.badStatus 503 "" "http://127.0.0.1:7070/")), oldSuite) := by
  have asked : asking (withRow 503) = .ok ⟨withRow 503, "http://127.0.0.1:7070/", rfl⟩ := by
    decide +kernel
  obtain ⟨e, rfl, -, ends⟩ := (run_of_status asked oldSuite).1 (by decide)
  exact ⟨asked, ends⟩

/-- An answer of several choices is none of those from 200 to 299, yet its body replaces the old suite. -/
theorem run_multipleChoices :
    asking (withRow 300) = .ok ⟨withRow 300, "http://127.0.0.1:7070/", rfl⟩ ∧
      ¬(200 ≤ (withRow 300).status ∧ (withRow 300).status < 300) ∧
      ((run (constantSettings "out") (answering (withRow 300))).run oldSuite).result =
        .ok "out/suite.json" ∧
      oldSuite.read "out/suite.json" = .ok [7] ∧
      ((run (constantSettings "out") (answering (withRow 300))).run oldSuite).store.read "out/suite.json" =
        .ok (Text.utf8 (Suite.encode .compact [Row.parse "expr:1"]).toList) := by
  decide +kernel

end SheetSuite.Update
