import Enclavia.Server.Session
import Enclavia.Synchronizer.Client
import Enclavia.Synchronizer.Listener
import Enclavia.Synchronizer.Mesh.Handshake

open interaction enclavia.protocol enclavia.synchronizer

namespace enclavia.deployment

inductive Image where
  | synchronizer
  | customer
  | foreign

inductive Protocol where
  | mesh
  | listener
  | client
  | server (kind : server.ChannelKind) (rounds : Nat)

def Protocol.RunsOn : Protocol → Image → Role → Prop
  | .mesh, image, _ => image = .synchronizer
  | .listener, image, role => image = .synchronizer ∧ role = .Responder
  | .client, image, role => image = .customer ∧ role = .Initiator
  | .server _ _, image, role => image = .customer ∧ role = .Responder

/-- Any number of instances and sessions. -/
structure Deployment (Blob Instance Session : Type) where
  verifier : mesh.Verifier Blob
  production : verifier.build.debug_mode = false
  image : Instance → Image
  pcrs : Instance → DocPcrs
  identity : Instance → PinIdentity
  measured : ∀ i, PinIdentity.from_doc_pcrs (pcrs i) = .ok (identity i)
  image_measured : ∀ i j, (identity i).image_pcrs = (identity j).image_pcrs → image i = image j
  key_collision_free : ∀ i j, (identity i).key = (identity j).key →
    (identity i).canonical_bytes = (identity j).canonical_bytes
  mesh_identity : Instance → mesh.MeshIdentity Blob
  mesh_pubkey_injective : ∀ i j, (mesh_identity i).pubkey = (mesh_identity j).pubkey → i = j
  signature_no_document : ∀ i hash doc,
    verifier.lib.validate_at_doc_timestamp ((mesh_identity i).sign_handshake hash) ≠ .ok doc
  control_pubkey : Instance → ControlPubkey
  server_policy : Instance → List Pcrs
  hash : Session → List UInt8
  hash_injective : ∀ s s', hash s = hash s' → s = s'
  ends : Session → Role → Option (Instance × Protocol)
  ends_run : ∀ s r i p, ends s r = some (i, p) → p.RunsOn (image i) r

variable {Blob Instance Session : Type}

namespace Deployment

variable (D : Deployment Blob Instance Session)

def mesh_program (i : Instance) (role : Role) : ExceptT mesh.HandshakeError (Proc Blob) mesh.PeerIdentity :=
  mesh.mutual_authenticate D.verifier role (D.mesh_identity i) (.self_only ⟨(D.identity i).key⟩)

def listener_program : ExceptT listener.ConnError (Proc Blob) (Option (PcrKey × ControlPubkey)) :=
  listener.handle_connection D.verifier.lib D.verifier.build

def client_program (i : Instance) : ExceptT client.SetupError (Proc Blob) PeerProtocol :=
  client.connect_and_authenticate D.verifier.lib D.verifier.build (.Expected (D.server_policy i))
    (D.control_pubkey i)

def program (i : Instance) (role : Role) : Protocol → Proc Blob Unit
  | .mesh => (D.mesh_program i role).run.bind fun _ => .ret ()
  | .listener => D.listener_program.run.bind fun _ => .ret ()
  | .client => (D.client_program i).run.bind fun _ => .ret ()
  | .server kind rounds => (server.handle_client kind rounds).run.bind fun _ => .ret ()

def Announces (i : Instance) : Protocol → Option (List UInt8) → Prop
  | .mesh, data => data = some (D.mesh_identity i).pubkey.toList
  | .listener, data => data = none
  | .client, data => data = some (D.control_pubkey i).toList
  | .server _ _, data => server.ControlNonce data

/-- Documents that are known without a session: those without a nonce, those of chain links, and
whatever a foreign image lets its NSM sign. -/
def Public (doc : AttestationDoc) : Prop :=
  ∃ i, doc.pcrs = D.pcrs i ∧
    (doc.nonce = none ∨ D.image i = .foreign ∨
      D.image i = .customer ∧ ∃ bytes payload value,
        D.verifier.lib.validate_chain_link_with bytes payload .Verify = .ok value ∧
        D.verifier.lib.validate_at_doc_timestamp bytes = .ok doc)

def Derivable (known : List (Plaintext Blob)) (message : Plaintext Blob) : Prop :=
  ∀ bytes ∈ message.blobs,
    (∀ doc, D.verifier.lib.validate_at_doc_timestamp bytes = .ok doc →
      (∃ m ∈ known, ∃ b ∈ m.blobs, D.verifier.lib.validate_at_doc_timestamp b = .ok doc) ∨ D.Public doc) ∧
    (∀ i hash, D.verifier.p256.verify (D.mesh_identity i).pubkey hash bytes = true →
      ∃ m ∈ known, ∃ b ∈ m.blobs, D.verifier.p256.verify (D.mesh_identity i).pubkey hash b = true)

/-- The NSM signs the instance's own measurements, and a session has one hash for both ends. -/
def answers (trace : Trace Session TransportError (Plaintext Blob) (Reply Blob)) (s : Session) (r : Role) :
    (request : Request Blob) → Reply Blob request → Prop
  | .handshake, answer => ∀ hash, answer = .ok hash → hash = D.hash s
  | .attest nonce data, answer => ∀ bytes, answer = .ok bytes →
    ∃ i p doc, D.ends s r = some (i, p) ∧ D.verifier.lib.validate_at_doc_timestamp bytes = .ok doc ∧
      doc.pcrs = D.pcrs i ∧ doc.nonce = some nonce ∧ doc.user_data = data
  | .serve _, (replies : List (Plaintext Blob)) => ∀ reply ∈ replies, D.Derivable (messages trace) reply
  | _, _ => True

def network : Network Session TransportError (Plaintext Blob) (Request Blob) (Reply Blob) Unit where
  party s r := (D.ends s r).map fun (i, p) => D.program i r p
  can := D.Derivable
  answers := D.answers

variable {D}

variable {s : Session} {r : Role} {i : Instance} {message : Plaintext Blob} {known : List (Plaintext Blob)}

theorem network_party {p : Protocol}
    (hend : D.ends s r = some (i, p)) : D.network.party s r = some (D.program i r p) := by
  simp only [network, hend, Option.map_some]

def Sends (r : Role) :
    Protocol → List (SessionEvent Blob) → Plaintext Blob → Prop
  | .mesh => mesh.Answering r
  | .client => fun _ message => ∃ doc, message = (Frame.authenticate doc).encode
  | _ => fun _ _ => True

theorem program_speaks (i : Instance) (r : Role) (p : Protocol) :
    Program.Asks (Speaks D.verifier.lib (D.Announces i p) (Sends r p)) [] (D.program i r p) := by
  cases p with
  | mesh => exact (mesh.mutual_authenticate_speaks (D.signature_no_document i)).bind fun _ _ _ => trivial
  | listener => exact listener.handle_connection_speaks.bind fun _ _ _ => trivial
  | client => exact client.connect_and_authenticate_speaks.bind fun _ _ _ => trivial
  | server kind rounds => exact server.handle_client_speaks.bind fun _ _ _ => trivial

theorem Derivable.of_mem (h : message ∈ known) :
    D.Derivable known message := by
  intro bytes hbytes
  refine ⟨?_, ?_⟩
  · intro doc hdoc
    exact .inl ⟨message, h, bytes, hbytes, hdoc⟩
  · intro i hash hverify
    exact ⟨message, h, bytes, hbytes, hverify⟩

theorem identity_of_key {j : Instance} (hkey : (D.identity i).key = (D.identity j).key) :
    D.identity i = D.identity j :=
  PinIdentity.canonical_bytes_injective (D.key_collision_free i j hkey)

theorem image_of_identity {j : Instance} (hidentity : D.identity i = D.identity j) :
    D.image i = D.image j :=
  D.image_measured i j (congrArg PinIdentity.image_pcrs hidentity)

variable [DecidableEq Session] {trace : Trace Session TransportError (Plaintext Blob) (Reply Blob)}

theorem event_speaks (hvalid : D.network.Valid trace) {event : SessionEvent Blob}
    (hmem : (s, r, event) ∈ trace) :
    ∃ i p before, D.ends s r = some (i, p) ∧ before <+: localTrace trace s r ∧
      Speaks D.verifier.lib (D.Announces i p) (Sends r p) before event.1 := by
  obtain ⟨q, hparty⟩ := hvalid.party_isSome hmem
  obtain ⟨⟨i, p⟩, hend, -⟩ := Option.map_eq_some_iff.mp hparty
  obtain ⟨before, hbefore, hspeaks⟩ :=
    hvalid.asks (network_party hend) (program_speaks i r p) hmem
  exact ⟨i, p, before, hend, hbefore, hspeaks⟩

theorem hash_of_handshaken (hvalid : D.network.Valid trace) {hash : List UInt8}
    (hmem : (s, r, SessionEvent.handshaken hash) ∈ trace) : hash = D.hash s := by
  obtain ⟨before, -, hanswer⟩ := hvalid.answered hmem
  exact hanswer hash rfl

theorem attested_document (hvalid : D.network.Valid trace)
    {nonce : List UInt8} {data : Option (List UInt8)} {bytes : Blob}
    (hmem : (s, r, SessionEvent.attested nonce data bytes) ∈ trace) :
    nonce = D.hash s ∧ ∃ i p doc, D.ends s r = some (i, p) ∧
      D.verifier.lib.validate_at_doc_timestamp bytes = .ok doc ∧ doc.pcrs = D.pcrs i ∧
      doc.nonce = some nonce ∧ doc.user_data = data ∧ D.Announces i p data := by
  obtain ⟨before, -, hanswer⟩ := hvalid.answered hmem
  obtain ⟨i, p, doc, hend, hdoc, hpcrs, hnonce, hdata⟩ := hanswer bytes rfl
  obtain ⟨i', p', before, hend', hbefore, hhash, hannounces⟩ := event_speaks hvalid hmem
  rw [hend, Option.some.injEq, Prod.mk.injEq] at hend'
  obtain ⟨rfl, rfl⟩ := hend'
  have hsession := hash_of_handshaken hvalid (Network.mem_localTrace.mp (hbefore.subset hhash))
  exact ⟨hsession, i, p, doc, hend, hdoc, hpcrs, hnonce, hdata, hannounces⟩

def Origin (D : Deployment Blob Instance Session)
    (trace : Trace Session TransportError (Plaintext Blob) (Reply Blob)) (doc : AttestationDoc) : Prop :=
  (∃ s r nonce data bytes, (s, r, SessionEvent.attested nonce data bytes) ∈ trace ∧
    D.verifier.lib.validate_at_doc_timestamp bytes = .ok doc) ∨ D.Public doc

def Traced (D : Deployment Blob Instance Session)
    (trace : Trace Session TransportError (Plaintext Blob) (Reply Blob)) (message : Plaintext Blob) : Prop :=
  ∀ bytes ∈ message.blobs, ∀ doc, D.verifier.lib.validate_at_doc_timestamp bytes = .ok doc → Origin D trace doc

omit [DecidableEq Session] in
theorem Traced.mono {trace' : Trace Session TransportError (Plaintext Blob) (Reply Blob)} (h : Traced D trace message)
    (hsub : trace ⊆ trace') :
    Traced D trace' message := by
  intro bytes hbytes doc hdoc
  obtain ⟨s, r, nonce, data, bytes', hmem, hvalidates⟩ | hpublic := h bytes hbytes doc hdoc
  · exact .inl ⟨s, r, nonce, data, bytes', hsub hmem, hvalidates⟩
  · exact .inr hpublic

omit [DecidableEq Session] in
theorem Traced.of_derivable (hknown : ∀ m ∈ known, Traced D trace m) (h : D.Derivable known message) :
    Traced D trace message := by
  intro bytes hbytes doc hdoc
  obtain ⟨m, hm, b, hb, hvalidates⟩ | hpublic := (h bytes hbytes).1 doc hdoc
  · exact hknown m hm b hb doc hvalidates
  · exact .inr hpublic

theorem traced_of_write (hvalid : D.network.Valid trace)
    (htraced : ∀ m ∈ messages trace, Traced D trace m)
    {p : Protocol}
    (hspeaks : Speaks D.verifier.lib (D.Announces i p) (Sends r p) (localTrace trace s r) (.write message)) :
    Traced D trace message := by
  obtain ⟨-, hown | ⟨request, replies, hserved, hreply⟩⟩ := hspeaks
  · intro bytes hbytes doc hdoc
    obtain ⟨nonce, data, hattested⟩ := hown bytes hbytes doc hdoc
    exact .inl ⟨s, r, nonce, data, bytes, Network.mem_localTrace.mp hattested, hdoc⟩
  · obtain ⟨before, hbefore, hanswer⟩ := hvalid.answered (Network.mem_localTrace.mp hserved)
    refine Traced.of_derivable ?_ (hanswer message hreply)
    intro m hm
    exact htraced m (Network.messages_subset hbefore.subset hm)

theorem traced_of_read (htraced : ∀ m ∈ messages trace, Traced D trace m)
    (hpermits : D.network.Permits trace s r (SessionEvent.received message)) :
    Traced D trace message := by
  obtain ⟨sent, hwritten⟩ | ⟨-, hderivable⟩ := Network.Permits.received hpermits
  · exact htraced message (Network.mem_messages_of_written hwritten)
  · refine Traced.of_derivable ?_ hderivable
    intro m hm
    obtain ⟨s', r', sent, hmem, -⟩ := Network.mem_seen hm
    exact htraced m (Network.mem_messages_of_written hmem)

theorem messages_traced (hvalid : D.network.Valid trace) : ∀ m ∈ messages trace, Traced D trace m := by
  induction hvalid with
  | nil => nofun
  | @snoc trace s r event p q hvalid hparty hrun hpermits ih =>
    have hsub : trace ⊆ trace ++ [(s, r, event)] := List.subset_append_left _ _
    intro m hm
    rw [messages, List.filterMap_append] at hm
    obtain hm | hm := List.mem_append.mp hm
    · exact (ih m hm).mono hsub
    · refine Traced.mono ?_ hsub
      obtain ⟨⟨i, protocol⟩, hend, -⟩ := Option.map_eq_some_iff.mp hparty
      obtain ⟨effect, answer⟩ := event
      cases effect with
      | write message =>
        obtain rfl : m = message := by simpa [Event.written] using hm
        rw [network_party hend, Option.some.injEq] at hparty
        subst hparty
        have hspeaks := (program_speaks i r protocol).of_run hrun
        exact traced_of_write hvalid ih hspeaks
      | read =>
        match answer with
        | .error _ => simp [Event.written, Event.received] at hm
        | .ok none => simp [Event.written, Event.received] at hm
        | .ok (some message) =>
          obtain rfl : m = message := by simpa [Event.written, Event.received] using hm
          exact traced_of_read ih hpermits
      | call request => simp [Event.written, Event.received] at hm

def ReadAt (D : Deployment Blob Instance Session)
    (trace : Trace Session TransportError (Plaintext Blob) (Reply Blob)) (s : Session) (r : Role)
    (doc : AttestationDoc) : Prop :=
  ∃ message, (s, r, SessionEvent.received message) ∈ trace ∧ ∃ bytes ∈ message.blobs,
    D.verifier.lib.validate_at_doc_timestamp bytes = .ok doc

def MadeAt (D : Deployment Blob Instance Session)
    (trace : Trace Session TransportError (Plaintext Blob) (Reply Blob)) (s : Session) (r : Role)
    (doc : AttestationDoc) : Prop :=
  ∃ bytes, (s, r, SessionEvent.attested (D.hash s) doc.user_data bytes) ∈ trace ∧
    D.verifier.lib.validate_at_doc_timestamp bytes = .ok doc

theorem session_document (hvalid : D.network.Valid trace) {s' : Session} {r' : Role}
    {doc : AttestationDoc} (hread : D.ReadAt trace s' r' doc) (hnonce : doc.nonce = some (D.hash s))
    {identity : PinIdentity} (hidentity : PinIdentity.from_doc_pcrs doc.pcrs = .ok identity) :
    (∃ r i p, D.ends s r = some (i, p) ∧ D.identity i = identity ∧ D.Announces i p doc.user_data ∧
      D.MadeAt trace s r doc) ∨
    (∃ i, doc.pcrs = D.pcrs i ∧ D.identity i = identity ∧ (D.image i = .foreign ∨
      D.image i = .customer ∧ ∃ payload, doc.user_data = some (crypto.sha256 payload).toList)) := by
  obtain ⟨message, hreceived, bytes, hbytes, hdoc⟩ := hread
  have hmeasured {i : Instance} (hpcrs : doc.pcrs = D.pcrs i) : D.identity i = identity := by
    rw [hpcrs, D.measured, Except.ok.injEq] at hidentity
    exact hidentity
  obtain ⟨_, r, nonce, data, made, hmem, hmade⟩ | ⟨i, hpcrs, hnone | hforeign | ⟨hcustomer, hlink⟩⟩ :=
    messages_traced hvalid message (Network.mem_messages_of_received hreceived) bytes hbytes doc hdoc
  · obtain ⟨rfl, i, p, doc', hend, hdoc', hpcrs, hnonce', hdata, hannounces⟩ := attested_document hvalid hmem
    rw [hmade, Except.ok.injEq] at hdoc'
    subst hdoc'
    rw [hnonce', Option.some.injEq] at hnonce
    obtain rfl := D.hash_injective _ _ hnonce
    subst hdata
    exact .inl ⟨r, i, p, hend, hmeasured hpcrs, hannounces, made, hmem, hmade⟩
  · rw [hnone] at hnonce
    cases hnonce
  · exact .inr ⟨i, hpcrs, hmeasured hpcrs, .inl hforeign⟩
  · obtain ⟨linked, payload, value, hvalue, hlinked⟩ := hlink
    obtain ⟨doc', hdoc', hdata⟩ := DocLibrary.validate_chain_link_with_ok hvalue
    rw [hlinked, Except.ok.injEq] at hdoc'
    subst hdoc'
    exact .inr ⟨i, hpcrs, hmeasured hpcrs, .inr ⟨hcustomer, payload, hdata⟩⟩

end Deployment

end enclavia.deployment
