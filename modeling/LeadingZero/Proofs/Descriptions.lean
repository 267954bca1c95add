import LeadingZero.Proofs.Conclusive
import Mathlib

/-!
# What the descriptions keep of the records

A fingerprint holds descriptions and not the records themselves, so two reactions of the server can
be told apart only as far as the descriptions can. A description is text put together from names,
numerals and marks between them. No name is a numeral, names and numerals hold none of the marks,
and no two codes of a table share a name; so a description can be taken apart again, and two are
the same exactly if the records agree on what is meant to matter of them (`description_inj`).
-/

namespace LeadingZero

/-! ## Text that can be taken apart -/

section Text

variable {s s' t t' : String}

/-- No comma and no blank is in the text. -/
def IsWord (s : String) : Prop := ',' ∉ s.toList ∧ ' ' ∉ s.toList

/-- A word with a character in it that is in no numeral. -/
def IsName (s : String) : Prop :=
  IsWord s ∧ (s.toList.any fun c => !c.isDigit && c != '-') = true

instance : DecidablePred IsWord := fun _ => inferInstanceAs (Decidable (_ ∧ _))

instance : DecidablePred IsName := fun _ => inferInstanceAs (Decidable (_ ∧ _))

/-- What stands before the first mark can be told from what stands after it. -/
theorem append_mark_inj {mark : Char} {as as' bs bs' : List Char} (h : mark ∉ as)
    (h' : mark ∉ as') (heq : as ++ mark :: bs = as' ++ mark :: bs') : as = as' ∧ bs = bs' := by
  have hbefore : ∀ us vs, mark ∉ us → (us ++ mark :: vs).takeWhile (· != mark) = us := by
    intro us vs hus
    have hall : ∀ c ∈ us, (c != mark) = true := by
      intro c hc
      rw [bne_iff_ne]
      rintro rfl
      contradiction
    rw [List.takeWhile_append_of_pos hall]
    simp
  have has : as = as' := by rw [← hbefore as bs h, heq, hbefore as' bs' h']
  subst has
  exact ⟨rfl, List.tail_eq_of_cons_eq (List.append_cancel_left heq)⟩

/-- What stands before the first separator can be told from what stands after it, if the separator
starts with a mark that is not in there. -/
theorem append_separator_inj {separator : String} {mark : Char} {rest : List Char}
    (hseparator : separator.toList = mark :: rest) (h : mark ∉ s.toList) (h' : mark ∉ s'.toList)
    (heq : s ++ (separator ++ t) = s' ++ (separator ++ t')) : s = s' ∧ t = t' := by
  have hlists := congrArg String.toList heq
  simp only [String.toList_append, hseparator, List.cons_append] at hlists
  obtain ⟨hs, ht⟩ := append_mark_inj h h' hlists
  exact ⟨String.toList_inj.1 hs, String.toList_inj.1 (List.append_cancel_left ht)⟩

/-- A numeral is made of digits, and perhaps a sign. -/
theorem isDigit_of_mem_toString {n : Int} {c : Char} (h : c ∈ (toString n).toList) :
    c.isDigit = true ∨ c = '-' := by
  have hnat : ∀ m : Nat, c ∈ m.repr.toList → c.isDigit = true := by
    intro m hm
    rw [Nat.toList_repr] at hm
    exact Nat.isDigit_of_mem_toDigits (by omega) (by omega) hm
  rw [Int.toString_eq_repr, Int.repr_eq_if] at h
  by_cases hn : 0 ≤ n
  · rw [if_pos hn] at h
    exact .inl (hnat _ h)
  · rw [if_neg hn, String.toList_append, List.mem_append] at h
    rcases h with hsign | hdigits
    · exact .inr (List.mem_singleton.1 hsign)
    · exact .inl (hnat _ hdigits)

theorem isWord_toString (n : Int) : IsWord (toString n) := by
  unfold IsWord
  constructor <;> intro h <;> have hdigit := isDigit_of_mem_toString h <;> contradiction

theorem IsName.ne_toString (h : IsName s) (n : Int) : s ≠ toString n := by
  rintro rfl
  obtain ⟨-, hany⟩ := h
  obtain ⟨c, hc, hother⟩ := List.any_eq_true.1 hany
  rcases isDigit_of_mem_toString hc with hdigit | hsign
  · simp [hdigit] at hother
  · simp [hsign] at hother

/-- What is put in place of nothing does not hide it, if it stands for nothing else. -/
theorem getD_inj {o o' : Option String} (ho : o ≠ some s) (ho' : o' ≠ some s)
    (h : o.getD s = o'.getD s) : o = o' := by
  cases o with
  | none =>
    cases o' with
    | none => rfl
    | some t => exact absurd (congrArg some h).symm ho'
  | some t =>
    cases o' with
    | none => exact absurd (congrArg some h) ho
    | some t' => exact congrArg some h

theorem toString_int_inj {m n : Int} : toString m = toString n ↔ m = n := by
  rw [Int.toString_eq_repr, Int.toString_eq_repr]
  exact Int.repr_inj

end Text

/-! ## Labels -/

namespace Enumeration

/-- A table fit for descriptions: it has only names in it, and none of them twice. -/
structure Readable (e : Enumeration) : Prop where
  nodup : (e.members.map (·.1)).Nodup
  isName : ∀ member ∈ e.members, IsName member.1

variable {e : Enumeration}

/-- The label of a number is a name that the number has, or the numeral. -/
theorem label_int_cases (e : Enumeration) (n : Int) :
    (∃ member ∈ e.members, member.2.same (.int n) = true ∧ e.label (.int n) = member.1)
      ∨ e.label (.int n) = toString n := by
  cases h : e.members.find? fun member => member.2.same (.int n) with
  | none =>
    right
    rw [label, nameOf?, h]
    rfl
  | some member =>
    left
    refine ⟨member, List.mem_of_find?_eq_some h, by simpa using List.find?_some h, ?_⟩
    rw [label, nameOf?, h]
    rfl

/-- A label is never broken by a mark. -/
theorem Readable.isWord_label (he : e.Readable) (n : Int) : IsWord (e.label (.int n)) := by
  rcases e.label_int_cases n with ⟨member, hmem, -, hlabel⟩ | hlabel
  · rw [hlabel]
    exact (he.isName member hmem).1
  · rw [hlabel]
    exact isWord_toString n

/-- Numbers have one label only if they are the same. -/
theorem Readable.label_int_inj (he : e.Readable) {m n : Int} :
    e.label (.int m) = e.label (.int n) ↔ m = n := by
  refine ⟨fun h => ?_, fun h => by rw [h]⟩
  rcases e.label_int_cases m with ⟨x, hx, hxm, hlabel⟩ | hlabel <;>
    rcases e.label_int_cases n with ⟨y, hy, hyn, hlabel'⟩ | hlabel' <;> rw [hlabel, hlabel'] at h
  · -- One name, so one member, and that stands for both numbers.
    obtain rfl := List.inj_on_of_nodup_map he.nodup hx hy h
    rw [Value.same_iff] at hxm hyn
    exact Value.int.inj (hxm.symm.trans hyn)
  · exact absurd h ((he.isName x hx).ne_toString n)
  · exact absurd h.symm ((he.isName y hy).ne_toString m)
  · exact toString_int_inj.1 h

/-- Bytes have one label only if they are the same. -/
theorem Readable.label_byte_inj (he : e.Readable) {b b' : UInt8} :
    e.label (.int b.toNat) = e.label (.int b'.toNat) ↔ b = b' := by
  rw [he.label_int_inj, Int.natCast_inj, UInt8.toNat_inj]

end Enumeration

theorem Tls.readable_contentTypes : contentTypes.Readable := ⟨by decide, by decide⟩

theorem Tls.readable_alertLevels : alertLevels.Readable := ⟨by decide, by decide⟩

theorem Tls.readable_alertDescriptions : alertDescriptions.Readable := ⟨by decide, by decide⟩

theorem Tls.readable_handshakeTypes : handshakeTypes.Readable := ⟨by decide, by decide⟩

/-! ## What matters of a payload -/

namespace MessageKind

/-- Two payloads that are meant to read alike in a record of this kind. -/
def Alike : MessageKind → List UInt8 → List UInt8 → Prop
  | .changeCipherSpec, data, data' => data.length = 1 ↔ data'.length = 1
  | .alert, data, data' => (data.length < 2 ∧ data'.length < 2)
      ∨ ∃ level description rest rest', data = level :: description :: rest
        ∧ data' = level :: description :: rest'
  | .handshake, data, data' => (data = [] ∧ data' = [])
      ∨ ∃ type rest rest', data = type :: rest ∧ data' = type :: rest'
  | .applicationData, data, data' => data.length = data'.length

theorem name_injective : Function.Injective name := by
  intro kind kind' h
  cases kind <;> cases kind' <;> first | rfl | contradiction

/-- No name is that of the records that are not looked into, and none has a bracket in it. -/
theorem name_ne_message (kind : MessageKind) : kind.name ≠ "Message" := by
  cases kind <;> decide

theorem bracket_notMem_name (kind : MessageKind) : '(' ∉ kind.name.toList := by
  cases kind <;> decide

section

variable {level level' description description' type type' : UInt8}
  {data data' rest rest' : List UInt8}

theorem arguments?_changeCipherSpec (data : List UInt8) :
    arguments? .changeCipherSpec data = if data.length = 1 then some "" else none := by
  match data with
  | [] => rfl
  | [_] => rfl
  | _ :: _ :: _ => simp [arguments?]

/-- Both numbers of an alert can be read off what is said of it. -/
theorem arguments?_alert_inj :
    arguments? .alert (level :: description :: rest)
        = arguments? .alert (level' :: description' :: rest')
      ↔ level = level' ∧ description = description' := by
  constructor
  · intro h
    have htext := Option.some.inj h
    rw [String.append_assoc, String.append_assoc] at htext
    obtain ⟨hlevel, hdescription⟩ := append_separator_inj rfl
      (Tls.readable_alertLevels.isWord_label _).1 (Tls.readable_alertLevels.isWord_label _).1 htext
    exact ⟨Tls.readable_alertLevels.label_byte_inj.1 hlevel,
      Tls.readable_alertDescriptions.label_byte_inj.1 hdescription⟩
  · rintro ⟨rfl, rfl⟩
    rfl

theorem arguments?_handshake_inj :
    arguments? .handshake (type :: rest) = arguments? .handshake (type' :: rest')
      ↔ type = type' := by
  rw [arguments?, arguments?, Option.some_inj, Tls.readable_handshakeTypes.label_byte_inj]

theorem arguments?_applicationData_inj :
    arguments? .applicationData data = arguments? .applicationData data'
      ↔ data.length = data'.length := by
  rw [arguments?, arguments?, Option.some_inj, String.append_right_inj, Nat.toString_eq_repr,
    Nat.toString_eq_repr, Nat.repr_inj]

/-- The same is said of payloads exactly if they are meant to read alike. -/
theorem arguments?_inj (kind : MessageKind) (data data' : List UInt8) :
    kind.arguments? data = kind.arguments? data' ↔ kind.Alike data data' := by
  cases kind with
  | changeCipherSpec =>
    rw [arguments?_changeCipherSpec, arguments?_changeCipherSpec, Alike]
    by_cases h : data.length = 1 <;> by_cases h' : data'.length = 1 <;> simp [h, h']
  | alert =>
    match data, data' with
    | level :: description :: rest, level' :: description' :: rest' =>
      rw [arguments?_alert_inj, Alike]
      simp
    | [], [] | [], [_] | [_], [] | [_], [_] => simp [Alike, arguments?]
    | [], _ :: _ :: _ | [_], _ :: _ :: _ | _ :: _ :: _, [] | _ :: _ :: _, [_] =>
      simp [Alike, arguments?]
  | handshake =>
    match data, data' with
    | type :: rest, type' :: rest' =>
      rw [arguments?_handshake_inj, Alike]
      simp [eq_comm]
    | [], [] | [], _ :: _ | _ :: _, [] => simp [Alike, arguments?]
  | applicationData => exact arguments?_applicationData_inj

/-- What is said of a payload is never that its size is wrong: one of the two texts has a mark in
it that the other has not. -/
theorem arguments?_ne_invalid (kind : MessageKind) (data : List UInt8) :
    kind.arguments? data ≠ some "invalid size" := by
  intro h
  cases kind with
  | changeCipherSpec =>
    rw [arguments?_changeCipherSpec] at h
    split at h <;> simp at h
  | alert =>
    match data with
    | [] | [_] => simp [arguments?] at h
    | level :: description :: rest =>
      have hcomma : ',' ∈ ("invalid size" : String).toList := by
        rw [← Option.some.inj h]
        simp
      contradiction
  | handshake =>
    match data with
    | [] => simp [arguments?] at h
    | type :: rest =>
      have hblank : ' ' ∉ ("invalid size" : String).toList := by
        rw [← Option.some.inj h]
        exact (Tls.readable_handshakeTypes.isWord_label _).2
      contradiction
  | applicationData =>
    have hequals : '=' ∈ ("invalid size" : String).toList := by
      rw [← Option.some.inj h]
      simp
    contradiction

end

/-- Descriptions of records that are looked into are the same exactly if the records are of one kind
and the payloads meant to read alike. -/
theorem describe_inj {kind kind' : MessageKind} {data data' : List UInt8} :
    kind.describe data = kind'.describe data' ↔ kind = kind' ∧ kind.Alike data data' := by
  rw [describe, describe, String.append_left_inj, String.append_assoc, String.append_assoc]
  constructor
  · intro h
    obtain ⟨hname, hsaid⟩ := append_separator_inj rfl kind.bracket_notMem_name
      kind'.bracket_notMem_name h
    obtain rfl := name_injective hname
    refine ⟨rfl, (kind.arguments?_inj data data').1 ?_⟩
    exact getD_inj (kind.arguments?_ne_invalid data) (kind.arguments?_ne_invalid data') hsaid
  · rintro ⟨rfl, halike⟩
    rw [(kind.arguments?_inj data data').2 halike]

end MessageKind

/-- How the first byte of a payload is shown. -/
def firstByteText : Option UInt8 → String
  | none => "None"
  | some byte => toString byte.toNat

theorem isWord_firstByteText (byte? : Option UInt8) : IsWord (firstByteText byte?) := by
  cases byte? with
  | none => exact ⟨by decide, by decide⟩
  | some byte => exact isWord_toString byte.toNat

theorem firstByteText_injective : Function.Injective firstByteText := by
  have hnone : IsName "None" := by decide
  intro byte? byte?' h
  cases byte? with
  | none =>
    cases byte?' with
    | none => rfl
    | some byte' => exact absurd h (hnone.ne_toString byte'.toNat)
  | some byte =>
    cases byte?' with
    | none => exact absurd h.symm (hnone.ne_toString byte.toNat)
    | some byte' =>
      have hnat : (byte.toNat : Int) = byte'.toNat := toString_int_inj.1 h
      rw [Int.natCast_inj, UInt8.toNat_inj] at hnat
      rw [hnat]

theorem describeOther_eq (contentType : Value) (data : List UInt8) :
    describeOther contentType data = "Message(content_type="
      ++ (Tls.contentTypes.label contentType ++ (", first_byte=" ++ (firstByteText data.head?
        ++ (", len=" ++ (toString data.length ++ ")"))))) := by
  unfold describeOther
  cases data <;> simp only [String.append_assoc, List.head?_nil, List.head?_cons, firstByteText]

/-- Descriptions of records that are not looked into are the same exactly if their content types,
lengths and first bytes are. -/
theorem describeOther_inj {contentType contentType' : Int} {data data' : List UInt8} :
    describeOther (.int contentType) data = describeOther (.int contentType') data'
      ↔ contentType = contentType' ∧ data.length = data'.length ∧ data.head? = data'.head? := by
  rw [describeOther_eq, describeOther_eq, String.append_right_inj]
  constructor
  · intro h
    have hlabels := Tls.readable_contentTypes.isWord_label
    obtain ⟨hlabel, h⟩ := append_separator_inj rfl (hlabels _).1 (hlabels _).1 h
    obtain ⟨hfirst, h⟩ := append_separator_inj rfl (isWord_firstByteText _).1
      (isWord_firstByteText _).1 h
    have hlength := (String.append_left_inj _).1 h
    rw [Nat.toString_eq_repr, Nat.toString_eq_repr, Nat.repr_inj] at hlength
    exact ⟨Tls.readable_contentTypes.label_int_inj.1 hlabel, hlength,
      firstByteText_injective hfirst⟩
  · rintro ⟨rfl, hlength, hfirst⟩
    rw [hlength, hfirst]

/-- A record that is looked into is never taken for one that is not. -/
theorem MessageKind.describe_ne_describeOther (kind : MessageKind) (contentType : Value)
    (data data' : List UInt8) : kind.describe data ≠ describeOther contentType data' := by
  have hopening : "Message" ++ ("(" ++ "content_type=") = "Message(content_type=" := by decide
  intro h
  rw [describe, describeOther_eq, ← hopening, String.append_assoc, String.append_assoc,
    String.append_assoc, String.append_assoc] at h
  obtain ⟨hname, -⟩ := append_separator_inj rfl kind.bracket_notMem_name (by decide) h
  exact kind.name_ne_message hname

/-! ## Records -/

namespace MessageKind

theorem contentType_injective : Function.Injective contentType := by
  intro kind kind' h
  cases kind <;> cases kind' <;> first | rfl | contradiction

/-- A content type is one of those that are looked into, or none of them. -/
theorem contentType_cases (contentType : Int) :
    (∃ kind : MessageKind, contentType = kind.contentType)
      ∨ ∀ kind : MessageKind, contentType ≠ kind.contentType := by
  rw [← not_exists]
  exact em _

theorem ofContentType?_contentType (kind : MessageKind) :
    ofContentType? (.int kind.contentType) = some kind := by
  cases kind <;> rfl

theorem ofContentType?_eq_none {contentType : Int}
    (h : ∀ kind : MessageKind, contentType ≠ kind.contentType) :
    ofContentType? (.int contentType) = none := by
  rw [ofContentType?, List.find?_eq_none]
  intro kind _ hsame
  exact h kind (beq_iff_eq.1 hsame).symm

end MessageKind

/-- The description of a record with a number for its content type. -/
def description (r : Int × List UInt8) : String :=
  match MessageKind.ofContentType? (.int r.1) with
  | some kind => kind.describe r.2
  | none => describeOther (.int r.1) r.2

/-- Two records that are meant to read alike: they have one content type, and the payloads agree on
what matters for it. Under a content type that is not looked into, that is the length and the first
byte. -/
structure ReadsAlike (r r' : Int × List UInt8) : Prop where
  contentType : r.1 = r'.1
  payload : ∀ kind : MessageKind, r.1 = kind.contentType → kind.Alike r.2 r'.2
  other : (∀ kind : MessageKind, r.1 ≠ kind.contentType) →
    r.2.length = r'.2.length ∧ r.2.head? = r'.2.head?

section

variable {r r' : Int × List UInt8} {rs rs' : List (Int × List UInt8)} {kind : MessageKind}

/-- A record with a number for its content type always has a description. -/
theorem Record.describe_proper (r : Int × List UInt8) :
    (proper (.int r.1) r.2).describe = .ok (description r) := by
  show describeContent (.int r.1) r.2 = _
  unfold describeContent description
  rw [Value.key_int]
  show (match MessageKind.ofContentType? (.int r.1) with | some kind => _ | none => _) = _
  cases MessageKind.ofContentType? (.int r.1) <;> rfl

theorem description_of_kind (h : r.1 = kind.contentType) : description r = kind.describe r.2 := by
  rw [description, h, kind.ofContentType?_contentType]

theorem description_of_other (h : ∀ kind : MessageKind, r.1 ≠ kind.contentType) :
    description r = describeOther (.int r.1) r.2 := by
  rw [description, MessageKind.ofContentType?_eq_none h]

/-- Descriptions are the same exactly if the records are meant to read alike. -/
theorem description_inj : description r = description r' ↔ ReadsAlike r r' := by
  constructor
  · intro h
    rcases MessageKind.contentType_cases r.1 with ⟨kind, hkind⟩ | hother <;>
      rcases MessageKind.contentType_cases r'.1 with ⟨kind', hkind'⟩ | hother'
    · rw [description_of_kind hkind, description_of_kind hkind', MessageKind.describe_inj] at h
      obtain ⟨rfl, halike⟩ := h
      refine ⟨hkind.trans hkind'.symm, fun other heq => ?_,
        fun hother => absurd hkind (hother kind)⟩
      rwa [MessageKind.contentType_injective (heq.symm.trans hkind)]
    · rw [description_of_kind hkind, description_of_other hother'] at h
      exact absurd h (kind.describe_ne_describeOther _ _ _)
    · rw [description_of_other hother, description_of_kind hkind'] at h
      exact absurd h.symm (kind'.describe_ne_describeOther _ _ _)
    · rw [description_of_other hother, description_of_other hother', describeOther_inj] at h
      exact ⟨h.1, fun kind hkind => absurd hkind (hother kind), fun _ => h.2⟩
  · rintro ⟨htype, hpayload, hrest⟩
    rcases MessageKind.contentType_cases r.1 with ⟨kind, hkind⟩ | hother
    · rw [description_of_kind hkind, description_of_kind (htype.symm.trans hkind),
        MessageKind.describe_inj]
      exact ⟨rfl, hpayload kind hkind⟩
    · have hother' : ∀ kind : MessageKind, r'.1 ≠ kind.contentType := by
        rwa [← htype]
      rw [description_of_other hother, description_of_other hother', describeOther_inj]
      exact ⟨htype, hrest hother⟩

theorem map_description_inj :
    rs.map description = rs'.map description ↔ List.Forall₂ ReadsAlike rs rs' := by
  rw [← List.forall₂_eq_eq_eq, List.forall₂_map_left_iff, List.forall₂_map_right_iff]
  simp only [description_inj]

end

/-! ## Fingerprints -/

namespace Fingerprint

variable {records : List Record} {connection : Value} {f f' : Fingerprint}

theorem length_of_mapM_describe {messages : List String}
    (h : records.mapM Record.describe = .ok messages) : messages.length = records.length := by
  induction records generalizing messages with
  | nil =>
    obtain rfl := Except.ok.inj h
    rfl
  | cons r rs ih =>
    rw [List.mapM_cons] at h
    cases hr : r.describe with
    | error fault =>
      rw [hr] at h
      contradiction
    | ok message =>
      cases hrs : rs.mapM Record.describe with
      | error fault =>
        rw [hr, hrs] at h
        contradiction
      | ok rest =>
        rw [hr, hrs] at h
        obtain rfl := Except.ok.inj h
        rw [List.length_cons, List.length_cons, ih hrs]

/-- There is one description for every record. -/
theorem recordCount_ofRecords (h : ofRecords records connection = .ok f) :
    f.recordCount = .int f.messages.length := by
  unfold ofRecords at h
  cases hmessages : records.mapM Record.describe with
  | error fault =>
    rw [hmessages] at h
    contradiction
  | ok messages =>
    rw [hmessages] at h
    obtain rfl := Except.ok.inj h
    rw [length_of_mapM_describe hmessages]

theorem of_difference_eq_recordCount (h : f.difference f' = .recordCount) :
    f.messages = f'.messages ∧ f.recordCount.same f'.recordCount = false := by
  unfold difference at h
  split_ifs at h with hlength hmessages hcount
  exact ⟨not_not.1 hmessages, by simpa using hcount⟩

/-- The numbers of records only differ if the descriptions do, and these are compared first. -/
theorem difference_ne_recordCount (h : f.recordCount = .int f.messages.length)
    (h' : f'.recordCount = .int f'.messages.length) : f.difference f' ≠ .recordCount := by
  intro hdifference
  obtain ⟨hmessages, hcount⟩ := of_difference_eq_recordCount hdifference
  rw [h, h', hmessages, Value.same_self] at hcount
  contradiction

end Fingerprint

/-- Records as they come from an engine that keeps to content types and bytes. -/
def properRecords (rs : List (Int × List UInt8)) : List Record :=
  rs.map fun r => .proper (.int r.1) r.2

theorem ofRecords_properRecords (rs : List (Int × List UInt8)) (connection : Value) :
    Fingerprint.ofRecords (properRecords rs) connection
      = .ok ⟨rs.map description, .int rs.length, connection⟩ := by
  have hdescribe : (Record.describe ∘ fun r : Int × List UInt8 => Record.proper (.int r.1) r.2)
      = fun r => pure (description r) := funext Record.describe_proper
  unfold Fingerprint.ofRecords properRecords
  rw [List.mapM_map, hdescribe, List.mapM_pure, pure_bind, List.length_map]
  rfl

section

variable {rs rs' : List (Int × List UInt8)} {state state' : Int}

/-- The fingerprint of proper records and a numbered state of the connection. -/
def fingerprintOf (rs : List (Int × List UInt8)) (state : Int) : Fingerprint where
  messages := rs.map description
  recordCount := .int rs.length
  connection := .int state

theorem same_fingerprintOf : (fingerprintOf rs state).same (fingerprintOf rs' state') = true
    ↔ state = state' ∧ List.Forall₂ ReadsAlike rs rs' := by
  rw [Fingerprint.same_iff]
  show rs.map description = rs'.map description
    ∧ (Value.int rs.length).same (.int rs'.length) = true
    ∧ (Value.int state).same (.int state') = true ↔ _
  rw [map_description_inj, Value.same, Value.same, beq_iff_eq, beq_iff_eq, Int.natCast_inj]
  constructor
  · rintro ⟨halike, -, hstate⟩
    exact ⟨hstate, halike⟩
  · rintro ⟨hstate, halike⟩
    exact ⟨halike, halike.length_eq, hstate⟩

theorem isConclusive_fingerprintOf (h : state ≠ ConnectionState.localError.code) :
    (Answer.fingerprint (fingerprintOf rs state)).isConclusive = true := by
  show (!(Value.int ConnectionState.localError.code).same (.int state)) = true
  rw [Value.same, Bool.not_eq_true', beq_eq_false_iff_ne]
  exact h.symm

end

/-- The default fingerprints are faithful. Records with numbers for their content types always have
one; two of these are found equal exactly if the connection ended in the same state and the records
are meant to read alike one by one, and else unequal, unless one ended in a local error. The number
of records never is the first difference, whatever the records. -/
theorem default_fingerprints_faithful :
    (∀ (rs rs' : List (Int × List UInt8)) (state state' : Int), ∃ f f',
      Fingerprint.ofRecords (properRecords rs) (.int state) = .ok f
        ∧ Fingerprint.ofRecords (properRecords rs') (.int state') = .ok f'
        ∧ (state ≠ ConnectionState.localError.code → state' ≠ ConnectionState.localError.code →
          ((Answer.fingerprint f).compare (.fingerprint f') = .equal
            ↔ state = state' ∧ List.Forall₂ ReadsAlike rs rs')
          ∧ ((Answer.fingerprint f).compare (.fingerprint f') = .unequal
            ↔ ¬(state = state' ∧ List.Forall₂ ReadsAlike rs rs'))))
      ∧ ∀ (records records' : List Record) (connection connection' : Value) (f f' : Fingerprint),
        Fingerprint.ofRecords records connection = .ok f →
        Fingerprint.ofRecords records' connection' = .ok f' → f.difference f' ≠ .recordCount := by
  constructor
  · intro rs rs' state state'
    refine ⟨fingerprintOf rs state, fingerprintOf rs' state', ofRecords_properRecords rs _,
      ofRecords_properRecords rs' _, fun hstate hstate' => ?_⟩
    have hcompare : (Answer.fingerprint (fingerprintOf rs state)).compare
        (.fingerprint (fingerprintOf rs' state')) =
          if (fingerprintOf rs state).same (fingerprintOf rs' state') then .equal else .unequal :=
      Answer.compare_of_isConclusive (isConclusive_fingerprintOf hstate)
        (isConclusive_fingerprintOf hstate')
    rw [hcompare, ← same_fingerprintOf]
    split_ifs with hsame <;> simp [hsame]
  · intro records records' connection connection' f f' h h'
    exact Fingerprint.difference_ne_recordCount (Fingerprint.recordCount_ofRecords h)
      (Fingerprint.recordCount_ofRecords h')

/-- What follows the type of a handshake message and the two numbers of an alert makes no
difference. -/
theorem helloThenAlert_equal :
    (ConnectionState.closed.code ≠ ConnectionState.localError.code)
      ∧ List.Forall₂ ReadsAlike [(22, [2, 0, 0]), (21, [2, 40])] [(22, [2, 7]), (21, [2, 40, 0])]
      ∧ ∃ f f', Fingerprint.ofRecords (properRecords [(22, [2, 0, 0]), (21, [2, 40])])
          (.int ConnectionState.closed.code) = .ok f
        ∧ Fingerprint.ofRecords (properRecords [(22, [2, 7]), (21, [2, 40, 0])])
          (.int ConnectionState.closed.code) = .ok f'
        ∧ (Answer.fingerprint f).compare (.fingerprint f') = .equal := by
  have hstate : ConnectionState.closed.code ≠ ConnectionState.localError.code := by decide
  have halike : List.Forall₂ ReadsAlike [(22, [2, 0, 0]), (21, [2, 40])]
      [(22, [2, 7]), (21, [2, 40, 0])] := by
    refine .cons ⟨rfl, ?_, fun h => absurd rfl (h .handshake)⟩
      (.cons ⟨rfl, ?_, fun h => absurd rfl (h .alert)⟩ .nil)
    · intro kind hkind
      obtain rfl : kind = .handshake := MessageKind.contentType_injective hkind.symm
      exact .inr ⟨_, _, _, rfl, rfl⟩
    · intro kind hkind
      obtain rfl : kind = .alert := MessageKind.contentType_injective hkind.symm
      exact .inr ⟨_, _, _, _, rfl, rfl⟩
  obtain ⟨hfaithful, -⟩ := default_fingerprints_faithful
  obtain ⟨f, f', hf, hf', hcompare⟩ := hfaithful _ _ _ _
  exact ⟨hstate, halike, f, f', hf, hf', (hcompare hstate hstate).1.2 ⟨rfl, halike⟩⟩

end LeadingZero
