import PredictionMarket.Proofs.Contract.Granted
import PredictionMarket.Proofs.Json.LongNumbers

/-!
# Bad messages

The message of a transfer is a text of any sort. Whatever is wrong with it, the transfer fails as a
refusal of the message, which the log tells, and nothing changes. There are two exceptions. The size
of a message is the number of its octets, which are counted before it is read; a text that holds a
surrogate has no octets. And reading stops at an integer of more digits than an integer may have.
Either way the transfer fails in a way that is no refusal and is not logged.
-/

namespace PredictionMarket

namespace Message

/-- A part that cannot be used makes a message invalid: what is said of a part is a text. -/
theorem kind_of_part (cause : PartError) :
    (MessageError.part cause).kind = .refusal .invalidMessage := by
  rw [MessageError.kind, Notice.kind_eq_refusal, MessageError.notice]
  refine ⟨?_, rfl⟩
  cases cause.message <;> rfl

/-- A text that states a purpose, or is refused as an invalid message. -/
def Answered (t : Text) : Prop :=
  (∃ purpose, parse (.text t) = .ok purpose) ∨
    ∃ e, parse (.text t) = .error e ∧ e.kind = .refusal .invalidMessage

/-- A text that is short enough for a message, in which an integer has too many digits. -/
def HasLongInteger (t : Text) : Prop :=
  (∃ octets, t.utf8? = some octets ∧ octets.length ≤ maxOctets) ∧
    Json.read t = .error .tooManyDigits

/-- A text with a surrogate is not even measured. -/
theorem parse_of_surrogate {t : Text} (h : t.hasSurrogate = true) :
    parse (.text t) = .error .notEncodable := by
  simp only [parse, parseText, Text.utf8?, h, if_true]

/-- Reading a text stops at an integer with too many digits. -/
theorem parse_of_longInteger {t : Text} (h : HasLongInteger t) :
    parse (.text t) = .error .tooManyDigits := by
  obtain ⟨⟨octets, hoctets, hsize⟩, hread⟩ := h
  simp only [parse, parseText, hoctets, refuseIf_bind, Nat.not_lt.2 hsize, if_false,
    hread]

/-- A text without surrogates fails as an invalid message, if it fails, unless it fails for too many
digits of an integer. -/
theorem kind_of_parse_error {t : Text} (h : t.hasSurrogate = false) {e : MessageError}
    (hfailed : parse (.text t) = .error e) :
    e.kind = .refusal .invalidMessage ∨ e = .tooManyDigits ∧ HasLongInteger t := by
  simp only [parse, parseText, Text.utf8?, h, Bool.false_eq_true, if_false,
    refuseIf_bind] at hfailed
  split at hfailed
  · cases hfailed
    exact .inl rfl
  · next hsize =>
    split at hfailed
    · cases hfailed
      exact .inl rfl
    · next hread =>
      cases hfailed
      refine .inr ⟨rfl, ⟨_, by rw [Text.utf8?, h, if_neg Bool.false_ne_true], ?_⟩, hread⟩
      simpa only [decide_eq_true_eq, Nat.not_lt] using hsize
    · next v _ =>
      cases hpurpose : readPurpose v with
      | error cause =>
        rw [hpurpose] at hfailed
        cases hfailed
        exact .inl (kind_of_part cause)
      | ok _ =>
        rw [hpurpose] at hfailed
        cases hfailed

/-- A text is answered in this way just if it holds no surrogate and no integer in it has too many
digits. -/
theorem answered_iff {t : Text} :
    Answered t ↔ t.hasSurrogate = false ∧ ¬HasLongInteger t := by
  refine ⟨fun hanswered => ?_, fun ⟨hsurrogate, hshort⟩ => ?_⟩
  · have hnot : ∀ e : MessageError, e.kind ≠ .refusal .invalidMessage →
        parse (.text t) ≠ .error e := by
      intro e hkind hparse
      rcases hanswered with ⟨_, hpurpose⟩ | ⟨other, hother, hrefusal⟩
      · exact nomatch hparse.symm.trans hpurpose
      · cases hparse.symm.trans hother
        exact hkind hrefusal
    refine ⟨Bool.eq_false_iff.2 fun hsurrogate => ?_, fun hlong => ?_⟩
    · exact hnot .notEncodable (by decide) (parse_of_surrogate hsurrogate)
    · exact hnot .tooManyDigits (by decide) (parse_of_longInteger hlong)
  · cases hparse : parse (.text t) with
    | ok purpose => exact .inl ⟨purpose, hparse⟩
    | error e =>
      rcases kind_of_parse_error hsurrogate hparse with hkind | ⟨-, hlong⟩
      · exact .inr ⟨e, hparse, hkind⟩
      · exact absurd hlong hshort

end Message

namespace Contract

/-- The log line of a transfer that is turned down for its message. -/
def badMessageLine (reason : List (String × Value)) : LogLine where
  level := .warning
  event := "call_rejected"
  fields := [("op", .text "ft_on_transfer"), ("error", .text "InvalidMessage")] ++ reason

/-- The rejection of an invalid message is logged in one line, with the reason if there is one. -/
theorem rejection_of_bad_message {e : MessageError} (h : e.kind = .refusal .invalidMessage) :
    ∃ reason, rejection "ft_on_transfer" (.message e) = [badMessageLine reason] := by
  have hkind : (ContractError.message e).kind = .refusal .invalidMessage := h
  simp only [rejection, hkind]
  exact ⟨_, rfl⟩

/-- A transfer of a positive amount to a contract that runs fails for its message, and nothing
changes. -/
theorem transfer_of_bad_message {c : Contract} (hrunning : c.paused = false) {n : Int}
    (hpositive : 0 < n) (hmost : n ≤ Part.maxAmount) (sender : Text) (token : Value)
    {message : Value} (now : Int) {e : MessageError} (hfailed : Message.parse message = .error e) :
    c.transfer sender token (.int n) message now =
      ⟨.error (.message e), c, rejection "ft_on_transfer" (.message e)⟩ := by
  have hroute : c.route token (.int n) message now = .error (.message e) := by
    simp only [route, checkRunning, hrunning, refuseIf_bind, Bool.false_eq_true, if_false,
      checkPositive_eq_ok "amount" hpositive hmost, ok_bind, hfailed]
    rfl
  rw [transfer, hroute]
  rfl

/-- **Bad messages**: a text states a purpose, or is refused as an invalid message, exactly if it
holds no surrogate and no integer in it has too many digits; and an integer has too many only where
as many digits stand in the text in a row. A transfer whose message cannot be read fails for the
cause that the message fails for, and changes nothing. The log tells that the message is invalid,
unless it holds a surrogate or an integer with too many digits; then the log tells nothing. -/
theorem bad_messages_refused_iff {c : Contract} (hrunning : c.paused = false) {n : Int}
    (hpositive : 0 < n) (hmost : n ≤ Part.maxAmount) (sender : Text) (token : Value) (t : Text)
    (now : Int) :
    (Message.Answered t ↔ t.hasSurrogate = false ∧ ¬Message.HasLongInteger t) ∧
      (Message.HasLongInteger t → t.HasLongNumber) ∧
      ∀ e, Message.parse (.text t) = .error e →
        (c.transfer sender token (.int n) (.text t) now).result = .error (.message e) ∧
          (c.transfer sender token (.int n) (.text t) now).after = c ∧
          ∃ reason, (c.transfer sender token (.int n) (.text t) now).log =
            if t.hasSurrogate ∨ e = .tooManyDigits then [] else [badMessageLine reason] := by
  refine ⟨Message.answered_iff, fun hlong => Json.hasLongNumber_of_read hlong.2,
    fun e hfailed => ?_⟩
  rw [transfer_of_bad_message hrunning hpositive hmost sender token now hfailed]
  refine ⟨rfl, rfl, ?_⟩
  cases hsurrogate : t.hasSurrogate with
  | true =>
    rw [Message.parse_of_surrogate hsurrogate] at hfailed
    cases hfailed
    exact ⟨[], rfl⟩
  | false =>
    rcases Message.kind_of_parse_error hsurrogate hfailed with hkind | ⟨rfl, -⟩
    · have hshort : e ≠ .tooManyDigits := by
        rintro rfl
        cases hkind
      obtain ⟨reason, hlog⟩ := rejection_of_bad_message hkind
      exact ⟨reason, by rw [hlog, if_neg (by simp [hshort])]⟩
    · exact ⟨[], rfl⟩

/-- A new contract refuses an empty message, and says so in its log. -/
theorem empty_message_refused :
    Message.parse (.text []) = .error .notJson ∧
      ∃ reason, ((make {} "g" "o").transfer "a" (.text "T") (.int 1) (.text []) 0).log =
        [badMessageLine reason] := by
  have hparse : Message.parse (.text []) = .error .notJson := rfl
  obtain ⟨-, -, hfails⟩ := bad_messages_refused_iff (c := make {} "g" "o") rfl (n := 1) (by decide)
    (by decide) "a" (.text "T") [] 0
  obtain ⟨-, -, hlog⟩ := hfails _ hparse
  exact ⟨hparse, hlog⟩

/-- A message that is a single surrogate is not answered, and the log of the transfer is empty. -/
theorem surrogate_escapes :
    ¬Message.Answered [0xD800] ∧
      ((make {} "g" "o").transfer "a" (.text "T") (.int 1) (.text [0xD800]) 0).result =
        .error (.message .notEncodable) ∧
      MessageError.notEncodable.kind ≠ .refusal .invalidMessage ∧
      ((make {} "g" "o").transfer "a" (.text "T") (.int 1) (.text [0xD800]) 0).log = [] :=
  ⟨fun h => Bool.noConfusion (Message.answered_iff.1 h).1, rfl, by decide, rfl⟩

end Contract

end PredictionMarket
