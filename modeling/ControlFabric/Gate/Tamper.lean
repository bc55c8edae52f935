import ControlFabric.Gate.ReleaseGate

/-! What hashes bind. The texts under a package hash are taken apart from both ends; under a request
hash stand five of the nine fields of the request, two of them only as one text. -/
namespace ControlFabric
open Lib Py

/-- No member of the enumeration ends in another. -/
theorem ActionOrigin.str_suffixDelimiting :
    SuffixDelimiting (fun o : ActionOrigin => o.str.toList) := by
  have hlast : ∀ a b : ActionOrigin,
      a.str.toList.reverse.take 2 = b.str.toList.reverse.take 2 → a = b := by
    intro a b
    cases a <;> cases b <;> decide
  have hlen (o : ActionOrigin) : 2 ≤ o.str.toList.reverse.length := by cases o <;> decide
  intro a b r s h
  have hend := congrArg (fun l => l.reverse.take 2) h
  simp only [List.reverse_append, List.take_append_of_le_length (hlen _)] at hend
  have hab := hlast a b hend
  rw [hab] at h
  exact ⟨hab, List.append_cancel_right h⟩

namespace EvidencePackage
variable {rt : Runtime} {p q : EvidencePackage}

/-- What is hashed between the package's identifier and its origin. -/
def boundText (rt : Runtime) (p : EvidencePackage) : String :=
  p.validationCertificate.certificateHash ++ reprList rt.isPrintable (sorted p.evidenceChain) ++
    reprList rt.isPrintable (sorted p.provenanceTrail) ++ p.requestedBy ++ p.actionType

theorem hashText_eq (rt : Runtime) (p : EvidencePackage) :
    p.hashText rt = p.packageId ++ p.boundText rt ++ p.origin.str ++ p.compiledAt.isoformat := by
  simp [hashText, boundText, String.append_assoc]

theorem hashText_eq_iff (hid : q.packageId = p.packageId) :
    q.hashText rt = p.hashText rt ↔ q.boundText rt = p.boundText rt ∧ q.origin = p.origin ∧
      q.compiledAt = p.compiledAt := by
  constructor
  · intro h
    have hchars := congrArg String.toList h
    simp only [hashText_eq, String.toList_append, hid] at hchars
    obtain ⟨htime, hchars⟩ := DateTime.isoformat_suffixDelimiting _ _ _ _ hchars
    obtain ⟨horigin, hchars⟩ := ActionOrigin.str_suffixDelimiting _ _ _ _ hchars
    exact ⟨String.ext (List.append_cancel_left hchars), horigin, htime⟩
  · rintro ⟨htext, horigin, htime⟩
    rw [hashText_eq, hashText_eq, hid, htext, horigin, htime]

/-- A certificate hash ends where the bracket of the evidence list opens. -/
theorem boundText_eq_iff (hp : IsHex p.validationCertificate.certificateHash)
    (hq : IsHex q.validationCertificate.certificateHash) :
    q.boundText rt = p.boundText rt ↔
      q.validationCertificate.certificateHash = p.validationCertificate.certificateHash ∧
        q.evidenceChain.Perm p.evidenceChain ∧ q.provenanceTrail.Perm p.provenanceTrail ∧
        q.requestedBy ++ q.actionType = p.requestedBy ++ p.actionType := by
  constructor
  · intro h
    have hchars := congrArg String.toList h
    simp only [boundText, String.toList_append, List.append_assoc] at hchars
    have hbracket (l : List String) (r : List Char) :
        ∀ c ∈ ((reprList rt.isPrintable l).toList ++ r).head?,
          c ∉ "0123456789abcdef".toList := by
      simp [reprList]
    obtain ⟨hhash, hchars⟩ :=
      append_inj_of_stop hq hp (hbracket _ _) (hbracket _ _) hchars
    obtain ⟨hevidence, hchars⟩ := reprList_selfDelimiting rt.isPrintable _ _ _ _ hchars
    obtain ⟨hprovenance, hchars⟩ := reprList_selfDelimiting rt.isPrintable _ _ _ _ hchars
    exact ⟨String.ext hhash, sorted_eq_iff.mp hevidence, sorted_eq_iff.mp hprovenance,
      String.ext (by simpa using hchars)⟩
  · rintro ⟨hhash, hevidence, hprovenance, htail⟩
    rw [boundText, boundText, hhash, sorted_eq_iff.mpr hevidence, sorted_eq_iff.mpr hprovenance]
    simp only [String.append_assoc, htail]

/-- A modified package that keeps the identifier and the hash of a constructed one is rejected
exactly when the modification shows in the text between them. -/
theorem verifyIntegrity_modified_iff (hrt : rt.Digest) (built q : EvidencePackage) :
    let p := built.computePackageHash rt
    q.packageId = p.packageId → q.packageHash = p.packageHash →
      (q.verifyIntegrity rt = false ↔ q.boundText rt ≠ p.boundText rt ∨ q.origin ≠ p.origin ∨
        q.compiledAt ≠ p.compiledAt) ∧
      (IsHex p.validationCertificate.certificateHash →
        IsHex q.validationCertificate.certificateHash →
          (q.verifyIntegrity rt = false ↔
            q.validationCertificate.certificateHash ≠ p.validationCertificate.certificateHash ∨
              ¬ q.evidenceChain.Perm p.evidenceChain ∨
              ¬ q.provenanceTrail.Perm p.provenanceTrail ∨
              q.requestedBy ++ q.actionType ≠ p.requestedBy ++ p.actionType ∨
              q.origin ≠ p.origin ∨ q.compiledAt ≠ p.compiledAt)) := by
  intro p hid hhash
  have hverify : q.verifyIntegrity rt = true ↔ q.boundText rt = p.boundText rt ∧
      q.origin = p.origin ∧ q.compiledAt = p.compiledAt := by
    rw [← hashText_eq_iff hid, verifyIntegrity, decide_eq_true_iff, hhash]
    constructor
    · intro h
      exact (hrt.injective h).symm
    · intro h
      rw [h]
      rfl
  constructor
  · rw [← Bool.not_eq_true, hverify, not_and_or, not_and_or]
  · intro hp hq
    rw [← Bool.not_eq_true, hverify, boundText_eq_iff hp hq]
    simp only [not_and_or, or_assoc]

/-- The content of a package about a payment of 100. -/
def payment : EvidencePackage where
  packageId := "p-1"
  actionManifest := [("amount", .int 100)]
  validationCertificate :=
    ⟨"c-1", "r-1", "0a1b", [.completeness], Runtime.reference.now 0, "release_payment", "c0de"⟩
  evidenceChain := ["invoice", "contract"]
  provenanceTrail := ["case-7"]
  policySnapshot := .none
  requestedBy := "ada"
  actionType := "release_payment"
  origin := .humanOperator
  compiledAt := Runtime.reference.now 0
  packageHash := ""

theorem verifyIntegrity_modified_payment :
    let p := payment.computePackageHash .reference
    ({ p with evidenceChain := ["invoice"] } : EvidencePackage).verifyIntegrity .reference = false := by
  intro p
  have hevidence : ¬ ["invoice"].Perm ["invoice", "contract"] := fun h => by simpa using h.length_eq
  have hhex : IsHex "c0de" := by decide
  exact ((verifyIntegrity_modified_iff Runtime.reference_digest payment
    { p with evidenceChain := ["invoice"] } rfl rfl).2 hhex hhex).mpr (Or.inr (Or.inl hevidence))

/-- The executable command can be replaced without the hash noticing. -/
theorem verifyIntegrity_misses_manifest :
    ¬ ∀ rt : Runtime, rt.Digest → ∀ built q : EvidencePackage,
      let p := built.computePackageHash rt
      q.packageId = p.packageId → q.packageHash = p.packageHash → q ≠ p →
        q.verifyIntegrity rt = false := by
  intro h
  let forged : EvidencePackage :=
    { payment.computePackageHash .reference with actionManifest := [("amount", .int 1000000)] }
  have hforged : forged.verifyIntegrity .reference = true :=
    verifyIntegrity_compute .reference { payment with actionManifest := [("amount", .int 1000000)] }
  have hne : forged ≠ payment.computePackageHash .reference := fun he => by
    simpa [forged, payment, computePackageHash] using congrArg actionManifest he
  have hreject := h .reference Runtime.reference_digest payment forged rfl rfl hne
  exact Bool.noConfusion (hforged.symm.trans hreject)

end EvidencePackage

/-! ### What a request hash binds -/
open DeterministicValidationChain

/-- A change of one field of a request, or of the place where `action_type` ends and `requested_by`
begins. -/
inductive RequestEdit where
  | requestId (value : String)
  | origin (value : ActionOrigin)
  | actionType (value : String)
  | proposedPayload (value : Json)
  | evidenceReferences (value : List String)
  | policyContext (value : ActivePolicies)
  | provenanceChain (value : List String)
  | requestedBy (value : String)
  | requestedAt (value : DateTime)
  | moved (k : ℕ)

namespace RequestEdit

/-- The changed request, under the hash of the old one. -/
def apply (request : ValidationRequest) : RequestEdit → ValidationRequest
  | .requestId value => { request with requestId := value }
  | .origin value => { request with origin := value }
  | .actionType value => { request with actionType := value }
  | .proposedPayload value => { request with proposedPayload := value }
  | .evidenceReferences value => { request with evidenceReferences := value }
  | .policyContext value => { request with policyContext := value }
  | .provenanceChain value => { request with provenanceChain := value }
  | .requestedBy value => { request with requestedBy := value }
  | .requestedAt value => { request with requestedAt := value }
  | .moved k =>
    let text := request.actionType.toList ++ request.requestedBy.toList
    { request with
      actionType := String.ofList (text.take k)
      requestedBy := String.ofList (text.drop k) }

/-- The changed field is under the hash. -/
def Hashed : RequestEdit → Prop
  | requestId _ | origin _ | actionType _ | requestedBy _ | requestedAt _ => True
  | proposedPayload _ | evidenceReferences _ | policyContext _ | provenanceChain _ | moved _ => False

instance : DecidablePred Hashed := fun edit => by
  cases edit <;> unfold Hashed <;> infer_instance

end RequestEdit

theorem ActionOrigin.str_injective {o o' : ActionOrigin} (h : o.str = o'.str) : o = o' := by
  have htexts : o.str.toList ++ [] = o'.str.toList ++ [] := by rw [h]
  exact (ActionOrigin.str_suffixDelimiting o o' [] [] (by simpa using htexts)).1

theorem DateTime.isoformat_injective {t t' : DateTime} (h : t.isoformat = t'.isoformat) : t = t' := by
  have htexts : [] ++ t.isoformat.toList = [] ++ t'.isoformat.toList := by rw [h]
  exact (DateTime.isoformat_suffixDelimiting t t' [] [] htexts).1

/-- A change leaves the text under the hash as it was exactly when the field is not under it. -/
theorem ValidationRequest.hashText_edited_iff {request : ValidationRequest} {edit : RequestEdit}
    (hedit : edit.apply request ≠ request) :
    (edit.apply request).hashText = request.hashText ↔ ¬ edit.Hashed := by
  have hhashed : edit.Hashed → (edit.apply request).hashText = request.hashText →
      edit.apply request = request := by
    intro hhashed h
    unfold hashText at h
    cases edit with
    | requestId value =>
      have hid : value = request.requestId := by
        simpa [RequestEdit.apply, String.append_assoc, String.append_left_inj] using h
      simp [RequestEdit.apply, hid]
    | origin value =>
      have horigin : value.str = request.origin.str := by
        simpa [RequestEdit.apply, String.append_assoc, String.append_left_inj] using h
      simp [RequestEdit.apply, ActionOrigin.str_injective horigin]
    | actionType value =>
      have htype : value = request.actionType := by
        simpa [RequestEdit.apply, String.append_assoc, String.append_left_inj] using h
      simp [RequestEdit.apply, htype]
    | requestedBy value =>
      have hby : value = request.requestedBy := by
        simpa [RequestEdit.apply, String.append_assoc, String.append_left_inj] using h
      simp [RequestEdit.apply, hby]
    | requestedAt value =>
      have htime : value.isoformat = request.requestedAt.isoformat := by
        simpa [RequestEdit.apply, String.append_assoc] using h
      simp [RequestEdit.apply, DateTime.isoformat_injective htime]
    | _ => exact hhashed.elim
  constructor
  · exact fun h hh => hedit (hhashed hh h)
  · intro hfree
    cases edit with
    | moved k =>
      have hjoined : String.ofList ((request.actionType.toList ++ request.requestedBy.toList).take k) ++
          String.ofList ((request.actionType.toList ++ request.requestedBy.toList).drop k) =
            request.actionType ++ request.requestedBy := by
        rw [← String.ofList_append, List.take_append_drop]
        simp
      simp only [RequestEdit.apply, hashText]
      rw [@String.append_assoc _ (String.ofList _) (String.ofList _), hjoined]
      simp only [String.append_assoc]
    | requestId | origin | actionType | requestedBy | requestedAt => exact absurd trivial hfree
    | _ => rfl

namespace DeterministicValidationChain
variable {rt : Runtime} {policies : ActivePolicies} {request : ValidationRequest}

/-- The gates but that of the provenance let the request through. -/
def PassesOthers (rt : Runtime) (policies : ActivePolicies) (request : ValidationRequest) : Prop :=
  ∀ c ∈ gates rt policies, c.name ≠ .provenanceIntegrity → (c.verdict request).1 = .pass

theorem passes_iff_others : Passes rt policies request ↔
    PassesOthers rt policies request ∧ request.requestHash = rt.sha256 request.hashText := by
  have hprovenance : ((checkProvenance rt).verdict request).1 = .pass ↔
      request.requestHash = rt.sha256 request.hashText := by
    simp only [checkProvenance]
    split_ifs <;> simp_all
  simp only [Passes, PassesOthers, gates, List.forall_mem_cons, List.not_mem_nil, hprovenance]
  simp [checkCompleteness, checkEvidence, checkPolicy, checkProvenance, checkSchema]
  tauto

/-- The chain rejects what does not pass, and nothing else. -/
theorem rejects_iff {w : World DeterministicValidationChain} :
    (∃ rejection w', (validate rt request).run w = .ok (.inr rejection) w') ↔
      ¬ Passes rt w.self.activePolicies request := by
  constructor
  · rintro ⟨rejection, w', h⟩ hpasses
    rw [validate_pass hpasses] at h
    cases h
  · intro hfails
    obtain ⟨pre, c, post, -, -, -, hrun⟩ := validate_reject hfails
    exact ⟨_, _, hrun⟩

end DeterministicValidationChain

/-- A change that leaves a request as it was nowhere is rejected exactly when the field is under the
hash or another gate refuses the changed request. -/
theorem ValidationRequest.validate_edited_iff {rt : Runtime} (hsha : Function.Injective rt.sha256)
    (built : ValidationRequest) (edit : RequestEdit) (w : World DeterministicValidationChain) :
    let request := built.computeRequestHash rt
    edit.apply request ≠ request →
      ((∃ rejection w', (validate rt (edit.apply request)).run w = .ok (.inr rejection) w') ↔
        edit.Hashed ∨ ¬ PassesOthers rt w.self.activePolicies (edit.apply request)) := by
  intro request hedit
  have hhash : (edit.apply request).requestHash = rt.sha256 request.hashText := by
    cases edit <;> rfl
  have hkept : (edit.apply request).requestHash = rt.sha256 (edit.apply request).hashText ↔
      ¬ edit.Hashed := by
    rw [← hashText_edited_iff hedit, hhash, hsha.eq_iff, eq_comm]
  rw [rejects_iff, passes_iff_others, hkept]
  tauto

/-- A request to release a payment of 100. -/
def paymentRequest : ValidationRequest where
  requestId := "r-1"
  origin := .humanOperator
  actionType := "release_payment"
  proposedPayload := .obj [("amount", .int 100)]
  evidenceReferences := ["invoice"]
  policyContext := .none
  provenanceChain := ["case-7"]
  requestedBy := "ada"
  requestedAt := Runtime.reference.now 0
  requestHash := ""

def freshChain : World DeterministicValidationChain :=
  ⟨DeterministicValidationChain.new none, Env.initial "north"⟩

theorem ValidationRequest.validate_edited_iff_payment :
    let request := paymentRequest.computeRequestHash .reference
    (RequestEdit.moved 16).apply request ≠ request ∧
      ((∃ rejection w', (validate .reference ((RequestEdit.moved 16).apply request)).run freshChain =
          .ok (.inr rejection) w') ↔
        (RequestEdit.moved 16).Hashed ∨ ¬ PassesOthers .reference freshChain.self.activePolicies
          ((RequestEdit.moved 16).apply request)) := by
  intro request
  have hmoved : (RequestEdit.moved 16).apply request ≠ request := by
    intro h
    exact absurd (congrArg ValidationRequest.actionType h) (by decide +kernel)
  exact ⟨hmoved, validate_edited_iff Runtime.reference_digest.injective paymentRequest
    (.moved 16) freshChain hmoved⟩

/-- The amount of a payment can be changed without the chain noticing. -/
theorem ValidationRequest.validate_misses_payload :
    ¬ ∀ rt : Runtime, Function.Injective rt.sha256 →
      ∀ (built : ValidationRequest) (edit : RequestEdit) (w : World DeterministicValidationChain),
      let request := built.computeRequestHash rt
      edit.apply request ≠ request →
        ∃ rejection w', (validate rt (edit.apply request)).run w = .ok (.inr rejection) w' := by
  intro h
  let request := paymentRequest.computeRequestHash .reference
  let edit : RequestEdit := .proposedPayload (.obj [("amount", .int 1000000)])
  have hedit : edit.apply request ≠ request := by
    intro heq
    have hpayload := congrArg ValidationRequest.proposedPayload heq
    simp [edit, request, RequestEdit.apply, paymentRequest, computeRequestHash] at hpayload
  have hothers : PassesOthers .reference freshChain.self.activePolicies (edit.apply request) := by
    intro c hc hname
    simp only [gates, List.mem_cons, List.not_mem_nil, or_false] at hc
    rcases hc with rfl | rfl | rfl | rfl | rfl
    · decide
    · decide
    · decide
    · exact absurd rfl hname
    · decide
  have hpasses : Passes .reference freshChain.self.activePolicies (edit.apply request) :=
    passes_iff_others.mpr ⟨hothers, rfl⟩
  exact rejects_iff.mp (h .reference Runtime.reference_digest.injective paymentRequest edit
    freshChain hedit) hpasses

end ControlFabric
