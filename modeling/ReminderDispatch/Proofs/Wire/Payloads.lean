import ReminderDispatch.Proofs.Json.Skipping
import ReminderDispatch.Wire.Records

/-!
# Payloads on the wire

The body of a task is read back as the work that was written into it, for every text, every number
of 64 bits and every set of template variables. The two kinds of work have no key in common, so a
body of one kind is never read as the other one.
-/

namespace ReminderDispatch

namespace TemplateVars

/-- A name after all others goes to the end. -/
theorem insertEntry_last {name text : String} {entries : List (String × String)}
    (last : ∀ entry ∈ entries, entry.1 < name) :
    insertEntry name text entries = entries ++ [(name, text)] := by
  induction entries with
  | nil => rfl
  | cons first more ih =>
    have before := last first List.mem_cons_self
    unfold insertEntry
    rw [if_neg (String.lt_asymm before), if_pos before,
      ih fun entry isMore => last entry (List.mem_cons_of_mem _ isMore)]
    rfl

/-- Names that follow in order go to the end in this order. -/
theorem toList_foldl_insert (entries : List (String × String)) (vars : TemplateVars)
    (ordered : (vars.toList ++ entries).Pairwise fun a b => a.1 < b.1) :
    (entries.foldl (fun vars (name, text) => vars.insert name text) vars).toList =
      vars.toList ++ entries := by
  induction entries generalizing vars with
  | nil => exact (List.append_nil _).symm
  | cons entry more ih =>
    have last : ∀ other ∈ vars.toList, other.1 < entry.1 := fun other isEarlier =>
      (List.pairwise_append.1 ordered).2.2 other isEarlier entry List.mem_cons_self
    have inserted : (vars.insert entry.1 entry.2).toList = vars.toList ++ [entry] :=
      insertEntry_last last
    have next := ih (vars.insert entry.1 entry.2)
    rw [inserted, List.append_assoc] at next
    exact next ordered

/-- Variables that are put together one after the other are those variables. -/
theorem ofList_toList (vars : TemplateVars) : ofList vars.toList = vars := by
  have same : (ofList vars.toList).toList = vars.toList :=
    toList_foldl_insert vars.toList empty vars.ordered
  cases vars
  exact (mk.injEq ..).mpr same

end TemplateVars

namespace Wire

open Json

/-- Keys are read back. -/
theorem storeId_faithful {kind : RowKind} : (@storeId kind).Faithful :=
  int64_faithful.via fun _ => rfl

/-- Template variables are read back. -/
theorem templateVars_faithful : templateVars.Faithful :=
  entries_faithful string_faithful TemplateVars.ofList_toList

/-- Mails are read back. -/
theorem email_faithful : email.codec.Faithful :=
  Record.codec_faithful
    ⟨string_faithful, string_faithful, string_faithful, templateVars_faithful, trivial⟩
    (by decide) fun _ => rfl

/-- Notifications are read back. -/
theorem notification_faithful : notification.codec.Faithful :=
  Record.codec_faithful
    ⟨storeId_faithful, string_faithful, string_faithful, string_faithful, trivial⟩
    (by decide) fun _ => rfl

/-- The body of a task is read back as the work that it carries. -/
theorem decode_encode (work : TaskPayload) : decode work.kind (encode work) = .ok work.body := by
  have faithful : (payload work.kind).Faithful := by
    cases work with
    | email mail => exact email_faithful
    | notification delivery => exact notification_faithful
  unfold decode encode
  rw [faithful.readAll_write]
  rfl

/-! ## The other kind -/

/-- The first field that a kind of work needs. -/
def firstField : PayloadKind → String
  | .email => "to"
  | .notification => "user_id"

/-- Keys can be passed over. -/
theorem storeId_skippable {kind : RowKind} : (@storeId kind).Skippable :=
  Codec.skippable_of_isScalar fun value => isScalar_integerBytes value.value.toInt

/-- Template variables can be passed over. -/
theorem templateVars_skippable : templateVars.Skippable :=
  entries_skippable isScalar_writeString _ _ _

/-- All fields of a mail can be passed over. -/
theorem email_skippable : email.fields.Skippable :=
  ⟨string_skippable, string_skippable, string_skippable, templateVars_skippable, trivial⟩

/-- All fields of a notification can be passed over. -/
theorem notification_skippable : notification.fields.Skippable :=
  ⟨storeId_skippable, string_skippable, string_skippable, string_skippable, trivial⟩

/-- The body of a task is not read as another kind of work: it lacks the first field of that kind.
-/
theorem decode_other (work : TaskPayload) {kind : PayloadKind} (other : kind ≠ work.kind) :
    decode kind (encode work) =
      .error (.decode kind.type (refusalAt (.missingField (firstField kind)) (encode work) 0)) := by
  have refused : (payload kind).readAll (encode work) =
      .error (refusalAt (.missingField (firstField kind)) (encode work) 0) := by
    cases work with
    | email mail =>
      cases kind with
      | email => exact absurd rfl other
      | notification =>
        exact Record.readAll_strange email_skippable (by decide) (fun _ => rfl) mail
    | notification delivery =>
      cases kind with
      | email =>
        exact Record.readAll_strange notification_skippable (by decide) (fun _ => rfl) delivery
      | notification => exact absurd rfl other
  unfold decode
  rw [refused]
  rfl

end Wire

end ReminderDispatch
