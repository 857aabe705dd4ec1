import ExtensionCatalogue.Client.Basic
import Mathlib.Data.List.Basic

/-!
# How operations end

An install takes the body of its response piece by piece, an uninstall takes it as a whole. Both
end by the response alone, and by the same rule (`operate_answered`): its status comes first, then
whether the body is complete, then what the body says. Only the wording of a broken transfer tells
them apart, so two operations whose responses differ in nothing but their pieces end alike.
-/

namespace ExtensionCatalogue.Client

/-! ## The rule -/

/-- What is told of a transfer that broke off. -/
def broken (o : Operation) (id cause : String) : String :=
  match o with
  | .install => "Install of " ++ id ++ " interrupted: " ++ cause
  | .uninstall => "Failed to read uninstall response for " ++ id ++ ": " ++ cause

/-- The end of an operation by its response, where `telling` words what cut the body short. -/
def Delivery.outcome (d : Delivery) (telling : String → String) : Except Failure Unit :=
  if d.isSuccess then
    match d.interrupted with
    | some cause => .error (.transport (telling cause))
    | none => checkOperation d.bytes
  else .error (.rejected d.status d.message)

section

variable {d : Delivery} (url id : String)

theorem success_delivered : (Reply.delivered d).success url =
    if d.isSuccess then .ok d else .error (.rejected d.status d.message) := rfl

/-- Piece by piece, an install comes to the whole body. -/
theorem installResult_delivered :
    (installResult url id (.delivered d)).2 = d.outcome (broken .install id) := by
  rw [installResult, success_delivered, Delivery.outcome]
  by_cases h : d.isSuccess = true
  · rw [if_pos h, if_pos h]
    dsimp only
    rw [Download.body_receiveAll]
    rfl
  · rw [if_neg h, if_neg h]

theorem uninstallResult_delivered :
    uninstallResult url id (.delivered d) = d.outcome (broken .uninstall id) := by
  rw [uninstallResult, success_delivered, Delivery.outcome]
  by_cases h : d.isSuccess = true
  · rw [if_pos h, if_pos h]
    rfl
  · rw [if_neg h, if_neg h]
    rfl

end

/-- The response that comes back for an operation. -/
def Answered (network : Network) (endpoint : Url) (o : Operation) (id : String) (d : Delivery) :
    Prop :=
  ∃ url, operationUrl endpoint o id = .ok url ∧ network url = .delivered d

theorem operate_answered {network : Network} {endpoint : Url} {o : Operation} {id : String}
    {d : Delivery} (h : Answered network endpoint o id d) :
    (operate network endpoint o id).2 = d.outcome (broken o id) := by
  obtain ⟨url, hurl, hd⟩ := h
  unfold operate
  rw [hurl]
  dsimp only
  rw [hd]
  cases o with
  | install => exact installResult_delivered url.text id
  | uninstall => exact uninstallResult_delivered url.text id

/-! ## Status, completeness, content -/

/-- How an operation ends by its response. -/
structure EndsBy (d : Delivery) (result : Except Failure Unit) : Prop where
  done : result = .ok () ↔ (200 ≤ d.status ∧ d.status < 300) ∧ d.interrupted = none ∧
    ∃ r, OperationResponse.read? d.bytes = some r ∧ r.status = "ok"
  rejected : ¬ (200 ≤ d.status ∧ d.status < 300) → result =
    .error (.rejected d.status
      (if d.interrupted = none then Text.trim (d.charset.text d.bytes) else ""))
  cut : 200 ≤ d.status ∧ d.status < 300 → d.interrupted ≠ none →
    ∃ cause, result = .error (.transport cause)
  unreadable : 200 ≤ d.status ∧ d.status < 300 → d.interrupted = none →
    OperationResponse.read? d.bytes = none → ∃ cause, result = .error (.unreadable cause)
  refused : 200 ≤ d.status ∧ d.status < 300 → d.interrupted = none →
    ∀ r, OperationResponse.read? d.bytes = some r → r.status ≠ "ok" →
      result = .error (.rejected 200 ("status '" ++ r.status ++ "'"))

/-- Both succeed, or both fail in the same way; the cause that is told may differ. -/
inductive SameEnd : Except Failure Unit → Except Failure Unit → Prop
  | ok : SameEnd (.ok ()) (.ok ())
  | transport (cause cause' : String) :
    SameEnd (.error (.transport cause)) (.error (.transport cause'))
  | unreadable (cause cause' : String) :
    SameEnd (.error (.unreadable cause)) (.error (.unreadable cause'))
  | rejected (status : Nat) (message : String) :
    SameEnd (.error (.rejected status message)) (.error (.rejected status message))

section

variable {body : List UInt8} {r : OperationResponse}

theorem checkOperation_of_unreadable (h : OperationResponse.read? body = none) :
    checkOperation body = .error (.unreadable "Invalid operation response") := by
  rw [checkOperation, h]

theorem checkOperation_of_read (h : OperationResponse.read? body = some r) :
    checkOperation body =
      if r.status = "ok" then .ok ()
      else .error (.rejected 200 ("status '" ++ r.status ++ "'")) := by
  rw [checkOperation, h]
  simp [OperationResponse.isOk, OperationResponse.okStatus]

theorem checkOperation_eq_ok_iff : checkOperation body = .ok () ↔
    ∃ r, OperationResponse.read? body = some r ∧ r.status = "ok" := by
  cases h : OperationResponse.read? body with
  | none => simp [checkOperation_of_unreadable h]
  | some r => by_cases hr : r.status = "ok" <;> simp [checkOperation_of_read h, hr]

theorem sameEnd_checkOperation (body : List UInt8) :
    SameEnd (checkOperation body) (checkOperation body) := by
  cases h : OperationResponse.read? body with
  | none =>
    rw [checkOperation_of_unreadable h]
    exact .unreadable _ _
  | some r =>
    rw [checkOperation_of_read h]
    split
    · exact .ok
    · exact .rejected _ _

end

section

variable {d : Delivery} {telling : String → String}

theorem isSuccess_iff : d.isSuccess = true ↔ 200 ≤ d.status ∧ d.status < 300 := by
  rw [Delivery.isSuccess, Bool.and_eq_true, decide_eq_true_eq, decide_eq_true_eq]

theorem message_eq :
    d.message = if d.interrupted = none then Text.trim (d.charset.text d.bytes) else "" := by
  rw [Delivery.message, Delivery.isComplete]
  cases d.interrupted <;> rfl

theorem outcome_of_rejected (h : ¬ (200 ≤ d.status ∧ d.status < 300)) :
    d.outcome telling = .error (.rejected d.status d.message) :=
  if_neg (mt isSuccess_iff.1 h)

theorem outcome_of_cut (h : 200 ≤ d.status ∧ d.status < 300) {cause : String}
    (hcut : d.interrupted = some cause) :
    d.outcome telling = .error (.transport (telling cause)) := by
  rw [Delivery.outcome, if_pos (isSuccess_iff.2 h), hcut]

theorem outcome_of_complete (h : 200 ≤ d.status ∧ d.status < 300)
    (hcomplete : d.interrupted = none) : d.outcome telling = checkOperation d.bytes := by
  rw [Delivery.outcome, if_pos (isSuccess_iff.2 h), hcomplete]

end

theorem endsBy_outcome (d : Delivery) (telling : String → String) :
    EndsBy d (d.outcome telling) where
  done := by
    by_cases h : 200 ≤ d.status ∧ d.status < 300
    · cases hcut : d.interrupted with
      | none => simp [outcome_of_complete h hcut, checkOperation_eq_ok_iff, h]
      | some cause => simp [outcome_of_cut h hcut]
    · simp [outcome_of_rejected h, h]
  rejected h := by rw [outcome_of_rejected h, message_eq]
  cut h hcut := by
    obtain ⟨cause, hcause⟩ := Option.ne_none_iff_exists'.1 hcut
    exact ⟨telling cause, outcome_of_cut h hcause⟩
  unreadable h hcomplete hread :=
    ⟨_, (outcome_of_complete h hcomplete).trans (checkOperation_of_unreadable hread)⟩
  refused h hcomplete r hread hr := by
    rw [outcome_of_complete h hcomplete, checkOperation_of_read hread, if_neg hr]

theorem sameEnd_outcome {d d' : Delivery} (hstatus : d.status = d'.status)
    (hcharset : d.charset = d'.charset) (hbytes : d.bytes = d'.bytes)
    (hcomplete : d.isComplete = d'.isComplete) (telling telling' : String → String) :
    SameEnd (d.outcome telling) (d'.outcome telling') := by
  by_cases h : 200 ≤ d.status ∧ d.status < 300
  · have h' : 200 ≤ d'.status ∧ d'.status < 300 := hstatus ▸ h
    cases hcut : d.interrupted with
    | none =>
      have hcut' : d'.interrupted = none := by
        simpa [Delivery.isComplete, hcut] using hcomplete
      rw [outcome_of_complete h hcut, outcome_of_complete h' hcut', hbytes]
      exact sameEnd_checkOperation d'.bytes
    | some cause =>
      obtain ⟨cause', hcut'⟩ := Option.ne_none_iff_exists'.1 fun hnone : d'.interrupted = none => by
        simp [Delivery.isComplete, hcut, hnone] at hcomplete
      rw [outcome_of_cut h hcut, outcome_of_cut h' hcut']
      exact .transport _ _
  · have h' : ¬ (200 ≤ d'.status ∧ d'.status < 300) := hstatus ▸ h
    have hmessage : d.message = d'.message := by
      rw [Delivery.message, Delivery.message, hcomplete, hcharset, hbytes]
    rw [outcome_of_rejected h, outcome_of_rejected h', hstatus, hmessage]
    exact .rejected _ _

/-- **Operations end alike.** Whether a package is installed or uninstalled and however the body
comes in pieces, responses with the same status, charset and bytes, both complete or both cut
short, lead to the same end. It is success for a complete answer of success only. -/
theorem operations_end_alike {network network' : Network} {endpoint : Url} {id : String}
    {d d' : Delivery} (o o' : Operation)
    (h : Answered network endpoint o id d) (h' : Answered network' endpoint o' id d')
    (hstatus : d.status = d'.status) (hcharset : d.charset = d'.charset)
    (hbytes : d.bytes = d'.bytes) (hcomplete : d.isComplete = d'.isComplete) :
    SameEnd (operate network endpoint o id).2 (operate network' endpoint o' id).2 ∧
      EndsBy d (operate network endpoint o id).2 := by
  rw [operate_answered h, operate_answered h']
  exact ⟨sameEnd_outcome hstatus hcharset hbytes hcomplete _ _, endsBy_outcome d _⟩

/-- An answer of success that is cut short after its last byte, once in three pieces and once in
one, and a refusal that is not in UTF-8. -/
theorem operations_end_alike_cut :
    let endpoint : Url := ⟨"http", some ⟨"", none, .name "localhost", some 8765⟩, "/", none, none⟩
    let answer := Utf8.bytes "\x7b\"status\":\"ok\"\x7d"
    let d : Delivery := ⟨200, some 20, .utf8, [answer.take 3, [], answer.drop 3], some "closed"⟩
    let d' : Delivery := ⟨200, none, .utf8, [answer], some "reset"⟩
    let refusal : Delivery := ⟨404, none, .windows1252, [[0x20, 0xE9], [0x0A]], none⟩
    Answered (fun _ => .delivered d) endpoint .install "a" d ∧
      Answered (fun _ => .delivered d') endpoint .uninstall "a" d' ∧
      d.bytes = d'.bytes ∧ OperationResponse.read? d.bytes = some ⟨"ok", none⟩ ∧
      SameEnd (operate (fun _ => .delivered d) endpoint .install "a").2
        (operate (fun _ => .delivered d') endpoint .uninstall "a").2 ∧
      (∃ cause, (operate (fun _ => .delivered d) endpoint .install "a").2 =
        .error (.transport cause)) ∧
      (operate (fun _ => .delivered refusal) endpoint .install "a").2 =
        .error (.rejected 404 "é") := by
  intro endpoint answer d d' refusal
  have hinstall (d : Delivery) : Answered (fun _ => .delivered d) endpoint .install "a" d :=
    ⟨{ endpoint with path := "/install", query := some "id=a" }, by decide +kernel, rfl⟩
  have huninstall (d : Delivery) : Answered (fun _ => .delivered d) endpoint .uninstall "a" d :=
    ⟨{ endpoint with path := "/uninstall", query := some "id=a" }, by decide +kernel, rfl⟩
  have hbytes : d.bytes = d'.bytes := by decide +kernel
  have hread : OperationResponse.read? d.bytes = some ⟨"ok", none⟩ := by decide +kernel
  have hmessage : Text.trim (refusal.charset.text refusal.bytes) = "é" := by decide +kernel
  obtain ⟨hsame, hends⟩ :=
    operations_end_alike .install .uninstall (hinstall d) (huninstall d') rfl rfl hbytes rfl
  obtain ⟨-, hrefused⟩ := operations_end_alike .install .uninstall (hinstall refusal)
    (huninstall refusal) rfl rfl rfl rfl
  refine ⟨hinstall d, huninstall d', hbytes, hread, hsame,
    hends.cut ⟨by decide, by decide⟩ (by decide), ?_⟩
  rw [hrefused.rejected (by decide), if_pos rfl, hmessage]

end ExtensionCatalogue.Client
