import PhotospiderDaemon.Ipc.Client
import PhotospiderDaemon.Ipc.FrameSchedule

/-!
# A client and its stream

A call sends one frame and takes one. `std::bad_alloc` may leave it in between, and `call` does
not drop the descriptor then.

* `call_of_tears`, `call_steps`: what a call does to the two streams of its descriptor.
* `client_inStep_iff`: when a connected client is in step with its streams.
-/

namespace PhotospiderDaemon.Ipc

open Foundation

/-! ## Being in step -/

/-- On a descriptor whose stream was `stream`, as many whole frames were sent as were taken,
and no part of a frame besides. -/
def InStep (stream : Bytes) (link : Link) : Prop :=
  ∃ requests responses : List Bytes, (∀ payload ∈ requests, InRange payload) ∧
    (∀ payload ∈ responses, InRange payload) ∧ link.outgoing.sent = frames requests ∧
    stream = frames responses ++ link.incoming.stream ∧ requests.length = responses.length

/-- Nothing was moved on a descriptor, or one frame each way. -/
inductive Steps (link link' : Link) : Prop where
  | untouched (hsent : link'.outgoing.sent = link.outgoing.sent)
      (hstream : link'.incoming.stream = link.incoming.stream)
  | exchanged {request response : Bytes} (hrequest : InRange request)
      (hresponse : InRange response)
      (hsent : link'.outgoing.sent = link.outgoing.sent ++ frame request)
      (hstream : link.incoming.stream = frame response ++ link'.incoming.stream)

/-- A part of a frame was sent, or all of it, and no whole frame was taken in return. -/
inductive Torn (link link' : Link) : Prop where
  | intro {part request consumed : Bytes} (hrequest : InRange request)
      (hpart : part <+: frame request) (hne : part ≠ [])
      (hsent : link'.outgoing.sent = link.outgoing.sent ++ part)
      (hconsumed : ¬ FrameBegins consumed)
      (hstream : link.incoming.stream = consumed ++ link'.incoming.stream)

variable {stream : Bytes} {link link' : Link}

theorem Steps.inStep (h : Steps link link') (hstep : InStep stream link) : InStep stream link' := by
  obtain ⟨requests, responses, hrequests, hresponses, hsents, htaken, hlength⟩ := hstep
  cases h with
  | untouched hsent hstream =>
    exact ⟨requests, responses, hrequests, hresponses, hsent.trans hsents,
      by rw [hstream, ← htaken], hlength⟩
  | @exchanged request response hrequest hresponse hsent hstream =>
    refine ⟨requests ++ [request], responses ++ [response], ?_, ?_, ?_, ?_, by simp [hlength]⟩
    · simpa [or_imp, forall_and] using ⟨hrequests, hrequest⟩
    · simpa [or_imp, forall_and] using ⟨hresponses, hresponse⟩
    · rw [frames_concat, hsent, hsents]
    · rw [frames_concat, List.append_assoc, ← hstream, htaken]

/-- After a part of a frame, or after a frame without an answer, the counts differ. -/
theorem Torn.not_inStep (h : Torn link link') (hstep : InStep stream link) :
    ¬ InStep stream link' := by
  obtain @⟨part, request, consumed, hrequest, hpart, hne, hsent, hconsumed, hstream⟩ := h
  obtain ⟨requests, responses, hrequests, hresponses, hsents, htaken, hlength⟩ := hstep
  rintro ⟨requests', responses', hrequests', hresponses', hsents', htaken', hlength'⟩
  have hout : frames requests ++ part = frames requests' ++ [] := by
    rw [List.append_nil, ← hsents', hsent, hsents]
  have hin : frames responses ++ consumed = frames responses' ++ [] := by
    rw [List.append_nil, ← List.append_cancel_right_eq, List.append_assoc, ← hstream, ← htaken,
      htaken']
  have hanswers : responses'.length ≤ responses.length :=
    (prefix_of_not_frameBegins hresponses hresponses' hconsumed hin).length_le
  by_cases hwhole : part = frame request
  · rw [hwhole, ← frames_concat, List.append_nil] at hout
    have hmore := prefix_of_not_frameBegins hrequests'
      (by simpa [or_imp, forall_and] using ⟨hrequests, hrequest⟩) not_frameBegins_nil
      (congrArg (· ++ []) hout.symm)
    have hcount := hmore.length_le
    rw [List.length_append, List.length_singleton] at hcount
    omega
  · have hless := prefix_of_not_frameBegins hrequests hrequests'
      (not_frameBegins_of_cut hrequest hpart hwhole) hout
    have hshorter := length_frames_le_of_prefix hless
    have hlonger := congrArg List.length hout
    have hpos := List.length_pos_of_ne_nil hne
    rw [List.length_append, List.length_append, List.length_nil] at hlonger
    omega

/-! ## What a call does -/

section Calls

variable [Kernel] {client client' : Client} {request : Request} {faults : CallFaults}
    {payload : Bytes}

/-- The exchange of a request is left by `std::bad_alloc` behind the first byte of the request and
before the last byte of a response. -/
def Link.Tears (link : Link) (payload : Bytes) (faults : CallFaults) : Prop :=
  WriteTears faults.write payload.length link.outgoing.events ∨
    (sending payload.length link.outgoing.events).ending = .complete ∧
      ReadTears faults.growth faults.read link.incoming

/-- The call of a connected client comes to a torn exchange. -/
def Client.Tears (client : Client) (request : Request) (faults : CallFaults) : Prop :=
  ∃ link payload, client.link = some link ∧ faults.encode = false ∧
    encodeRequest { request with requestId := client.nextRequestId } = .ok payload ∧
    link.Tears payload faults

/-- Decoding moves no bytes. -/
theorem accept_link {frame : Bytes} (h : (client.accept request frame faults).ended = some client')
    (hlink' : client'.link = some link') : client.link = some link' := by
  unfold Client.accept at h
  split at h
  · cases h
    exact hlink'
  · split at h
    · cases h
      exact hlink'
    · split at h
      · cases h
        exact hlink'
      · split at h
        · split at h <;> cases h <;> cases hlink'
        · cases h
          cases hlink'

/-- A write that succeeds has sent its frame. -/
theorem writeFrameOrRaise_ok {diagnostic : Bool} {descriptor : Int} {outgoing o : Outgoing}
    {status : Status} (hok : status.ok = true)
    (h : writeFrameOrRaise diagnostic descriptor payload outgoing = .returned status o) :
    status = Status.success ∧ o.sent = outgoing.sent ++ frame payload := by
  obtain ⟨part, hsent, -, -, ⟨o', ho', rfl⟩ | ⟨-, hcases⟩⟩ :=
    writeFrameOrRaise_part diagnostic descriptor payload outgoing
  · cases h.symm.trans ho'
    rw [h] at hsent
    exact ⟨rfl, hsent⟩
  · rw [h] at hcases
    rcases hcases with ⟨o', ho'⟩ | ⟨o', ho'⟩ | ⟨status, o', ho', hstatus⟩ <;> cases ho'
    exact absurd hok (hstatus ▸ Bool.false_ne_true)

/-- A torn exchange throws and leaves the client connected. -/
theorem exchange_of_tears (client : Client) (request : Request) (hpayload : InRange payload)
    (h : link.Tears payload faults) :
    ∃ client' link', client.exchange link request payload faults = .raised client' ∧
      client'.link = some link' ∧ Torn link link' := by
  obtain ⟨hraised, hreturned, hsent⟩ :=
    writeFrameOrRaise_sending faults.write link.valid hpayload link.outgoing
  unfold Client.exchange
  rcases h with ⟨hdiagnostic, hbroken, hmoved⟩ | ⟨hcomplete, htears⟩
  · obtain ⟨o, ho⟩ := hraised.mpr ⟨hdiagnostic, hbroken⟩
    rw [ho] at hsent
    simp only [ho]
    refine ⟨_, _, rfl, rfl, .intro hpayload (List.take_prefix _ _) (fun hnil => ?_) hsent
      not_frameBegins_nil rfl⟩
    rcases List.take_eq_nil_iff.mp hnil with hzero | hnil
    · omega
    · exact frame_ne_nil payload hnil
  · obtain ⟨o, ho⟩ := hreturned.mpr hcomplete
    obtain ⟨c, consumed, hread, hstream, hconsumed⟩ := readFrameOrRaise_of_tears link.valid htears
    simp only [ho, hread, Status.ok_success, Bool.not_true, Bool.false_eq_true, if_false]
    exact ⟨_, _, rfl, rfl, .intro hpayload (List.prefix_refl _) (frame_ne_nil payload)
      (writeFrameOrRaise_ok Status.ok_success ho).2 hconsumed hstream⟩

/-- An exchange that is not torn and leaves the client connected moves nothing or one frame each
way. -/
theorem exchange_steps (hpayload : InRange payload) (htears : ¬ link.Tears payload faults)
    (h : (client.exchange link request payload faults).ended = some client')
    (hlink' : client'.link = some link') : Steps link link' := by
  obtain ⟨hraised, hreturned, hsent⟩ :=
    writeFrameOrRaise_sending faults.write link.valid hpayload link.outgoing
  unfold Client.exchange at h
  cases hwrite : writeFrameOrRaise faults.write link.descriptor payload link.outgoing with
  | blocked o =>
    rw [hwrite] at h
    cases h
  | raised o =>
    rw [hwrite] at h hsent
    cases h
    cases hlink'
    obtain ⟨hdiagnostic, hbroken⟩ := hraised.mp ⟨o, hwrite⟩
    have hmoved : (sending payload.length link.outgoing.events).moved = 0 :=
      Nat.eq_zero_of_not_pos fun hpos => htears (Or.inl ⟨hdiagnostic, hbroken, hpos⟩)
    rw [hmoved, List.take_zero, List.append_nil] at hsent
    exact .untouched hsent rfl
  | returned status o =>
    rw [hwrite] at h
    cases hstatus : status.ok with
    | false =>
      simp only [hstatus, Bool.not_false, if_true] at h
      cases h
      cases hlink'
    | true =>
      obtain ⟨rfl, hwhole⟩ := writeFrameOrRaise_ok hstatus hwrite
      simp only [Status.ok_success, Bool.not_true, Bool.false_eq_true, if_false] at h
      have hcomplete := hreturned.mp ⟨o, hwrite⟩
      obtain ⟨consumed, hstream, -, hok⟩ :=
        readFrameOrRaise_consumed faults.growth faults.read link.descriptor link.incoming
      cases hread : readFrameOrRaise faults.growth faults.read link.descriptor link.incoming with
      | blocked c =>
        rw [hread] at h
        cases h
      | raised c =>
        rw [hread] at h
        cases h
        cases hlink'
        rcases readFrameOrRaise_raised link.valid hread with hread | ⟨response, hresponse, hframe⟩
        · exact absurd (Or.inr ⟨hcomplete, hread⟩) htears
        · exact .exchanged hpayload hresponse hwhole hframe
      | returned result c =>
        rw [hread] at h hstream
        cases result with
        | error status =>
          dsimp only at h
          split at h
          · cases h
            cases hlink'
          · split at h <;> cases h <;> cases hlink'
        | ok response =>
          obtain ⟨hresponse, rfl⟩ := hok response c hread
          cases accept_link h hlink'
          exact .exchanged hpayload hresponse hwhole hstream

/-- A call whose exchange is torn throws and leaves the client connected. -/
theorem call_of_tears (h : client.Tears request faults) :
    ∃ client' link link', client.call request faults = .raised client' ∧ client.link = some link ∧
      client'.link = some link' ∧ Torn link link' := by
  obtain ⟨link, payload, hlink, hencode, hpayload, htears⟩ := h
  obtain ⟨-, hlower, hupper⟩ := decodeRequest_of_encodeRequest hpayload
  have hid : client.nextRequestId ≠ 0 := (hasHeader_of_encodeRequest hpayload).1
  obtain ⟨client', link', hcall, hlink', htorn⟩ := exchange_of_tears
    { client with nextRequestId := client.nextRequestId + 1 }
    { request with requestId := client.nextRequestId } ⟨by omega, hupper⟩ htears
  refine ⟨client', link, link', ?_, hlink, hlink', htorn⟩
  unfold Client.call
  simp only [hlink, hid, hencode, hpayload, if_false, Bool.false_eq_true]
  exact hcall

/-- A call never connects. If it is not torn, a descriptor that it keeps has moved nothing or one
frame each way. -/
theorem call_steps (htears : ¬ client.Tears request faults)
    (h : (client.call request faults).ended = some client') (hlink' : client'.link = some link') :
    ∃ link, client.link = some link ∧ Steps link link' := by
  unfold Client.call at h
  cases hlink : client.link with
  | none =>
    rw [hlink] at h
    dsimp only at h
    split at h <;> cases h <;> rw [hlink] at hlink' <;> cases hlink'
  | some link =>
    rw [hlink] at h
    dsimp only at h
    refine ⟨link, rfl, ?_⟩
    split at h
    · split at h <;> cases h <;> cases hlink'
    · split at h
      · cases h
        cases hlink'
        exact .untouched rfl rfl
      · rename_i hencode
        split at h
        · cases h
          cases hlink'
          exact .untouched rfl rfl
        · rename_i payload hpayload
          obtain ⟨-, hlower, hupper⟩ := decodeRequest_of_encodeRequest hpayload
          refine exchange_steps ⟨by omega, hupper⟩ (fun hlinked => htears ?_) h hlink'
          exact ⟨link, payload, hlink, eq_false_of_ne_true hencode, hpayload, hlinked⟩

/-- A response that a call returns was decoded from the next frame of the stream. -/
theorem call_accepts {response : Response}
    (h : client.call request faults = .returned (.ok response) client') :
    ∃ link reply rest, client.link = some link ∧ link.incoming.stream = frame reply ++ rest ∧
      decodeResponse reply request.method client.nextRequestId = .ok response := by
  unfold Client.call at h
  split at h
  · split at h <;> cases h
  · rename_i link hlink
    dsimp only at h
    split at h
    · split at h <;> cases h
    · split at h
      · cases h
      · split at h
        · cases h
        · unfold Client.exchange at h
          split at h
          · cases h
          · cases h
          · split at h
            · cases h
            · obtain ⟨consumed, hstream, -, hok⟩ :=
                readFrameOrRaise_consumed faults.growth faults.read link.descriptor link.incoming
              split at h
              · cases h
              · cases h
              · split at h
                · cases h
                · split at h <;> cases h
              · rename_i reply c hread
                obtain ⟨-, rfl⟩ := hok reply c hread
                refine ⟨link, reply, _, hlink, hstream, ?_⟩
                unfold Client.accept at h
                split at h
                · cases h
                · split at h
                  · rename_i hdecode
                    cases h
                    exact hdecode
                  · split at h
                    · cases h
                    · split at h
                      · split at h <;> cases h
                      · cases h

end Calls

/-! ## Sequences of calls -/

section Runs

variable [Kernel] {calls : List (Request × CallFaults)}

/-- The client after some calls, unless one of them is still waiting. -/
def Client.after (client : Client) (calls : List (Request × CallFaults)) : Option Client :=
  calls.foldlM (fun client call => (client.call call.1 call.2).ended) client

theorem Client.after_concat (client : Client) (call : Request × CallFaults) :
    client.after (calls ++ [call]) =
      (client.after calls).bind fun client' => (client'.call call.1 call.2).ended := by
  simp [Client.after, List.foldlM_append]

/-- No call of the sequence comes to a torn exchange. -/
def Untorn (link : Link) (calls : List (Request × CallFaults)) : Prop :=
  ∀ done request faults, done ++ [(request, faults)] <+: calls → ∀ client,
    (Client.connect link).after done = some client → ¬ client.Tears request faults

/-- The calls of a sequence that is untorn keep the client in step. -/
theorem inStep_of_untorn (hfresh : link.outgoing.sent = []) (huntorn : Untorn link calls)
    {done : List (Request × CallFaults)} (hdone : done <+: calls) {client : Client}
    (hafter : (Client.connect link).after done = some client) (hlink : client.link = some link') :
    InStep link.incoming.stream link' := by
  induction done using List.reverseRecOn generalizing client link' with
  | nil =>
    cases hafter
    cases hlink
    exact ⟨[], [], by simp, by simp, hfresh, rfl, rfl⟩
  | append_singleton done call ih =>
    rw [Client.after_concat] at hafter
    obtain ⟨client₁, hclient₁, hended⟩ := Option.bind_eq_some_iff.mp hafter
    have htears := huntorn done call.1 call.2 hdone client₁ hclient₁
    obtain ⟨link₁, hlink₁, hsteps⟩ := call_steps htears hended hlink
    exact hsteps.inStep (ih ((List.prefix_append _ _).trans hdone) hclient₁ hlink₁)

/-- A connected client is in step with its streams between any two calls exactly as long as no
call comes to a torn exchange. Then a response that a call returns is the frame behind those of
all earlier calls. -/
theorem client_inStep_iff (link : Link) (hfresh : link.outgoing.sent = [])
    (calls : List (Request × CallFaults)) :
    ((∀ done, done <+: calls → ∀ client link', (Client.connect link).after done = some client →
        client.link = some link' → InStep link.incoming.stream link') ↔ Untorn link calls) ∧
    (Untorn link calls → ∀ done, done <+: calls → ∀ client client' request faults response,
      (Client.connect link).after done = some client →
      client.call request faults = .returned (.ok response) client' →
      ∃ (link' : Link) (requests responses : List Bytes) (reply rest : Bytes),
        client.link = some link' ∧ link'.outgoing.sent = frames requests ∧
        requests.length = responses.length ∧
        link.incoming.stream = frames responses ++ (frame reply ++ rest) ∧
        decodeResponse reply request.method client.nextRequestId = .ok response) := by
  refine ⟨⟨fun hsteps => ?_, fun huntorn done hdone client link' hafter hlink =>
    inStep_of_untorn hfresh huntorn hdone hafter hlink⟩, ?_⟩
  · intro done request faults hdone client hafter htears
    obtain ⟨client', link₁, link', hcall, hlink₁, hlink', htorn⟩ := call_of_tears htears
    have hafter' : (Client.connect link).after (done ++ [(request, faults)]) = some client' := by
      rw [Client.after_concat, hafter]
      exact congrArg Attempt.ended hcall
    have hstep := hsteps done ((List.prefix_append _ _).trans hdone) client link₁ hafter hlink₁
    exact htorn.not_inStep hstep (hsteps _ hdone client' link' hafter' hlink')
  · intro huntorn done hdone client client' request faults response hafter hcall
    obtain ⟨link', reply, rest, hlink', hstream, hdecode⟩ := call_accepts hcall
    obtain ⟨requests, responses, -, -, hsent, htaken, hlength⟩ :=
      inStep_of_untorn hfresh huntorn hdone hafter hlink'
    exact ⟨link', requests, responses, reply, rest, hlink', hsent, hlength, by rw [htaken, hstream],
      hdecode⟩

omit [Kernel] in
/-- A response that was taken and then could not be decoded leaves the client in step. -/
theorem client_inStep_iff_decode :
    letI := sampleKernel
    (sampleLink [[1, 2, 3]]).outgoing.sent = [] ∧
      ∀ done, done <+: [((default : Request), { CallFaults.none with decode := true })] →
        ∀ client link', (Client.connect (sampleLink [[1, 2, 3]])).after done = some client →
        client.link = some link' → InStep (sampleLink [[1, 2, 3]]).incoming.stream link' := by
  let _ : Kernel := sampleKernel
  refine ⟨rfl, ?_⟩
  refine (client_inStep_iff (sampleLink [[1, 2, 3]]) rfl _).1.mpr ?_
  rintro done request faults hdone client - ⟨link, payload, -, -, -, htears⟩
  -- None of the allocations fails that could tear the exchange.
  obtain ⟨hwrite, hread, hgrowth⟩ :
      faults.write = false ∧ faults.read = false ∧ faults.growth = none := by
    have hmem := hdone.subset (List.mem_append_right done List.mem_cons_self)
    cases List.mem_singleton.mp hmem
    exact ⟨rfl, rfl, rfl⟩
  unfold Link.Tears WriteTears at htears
  rw [hwrite, hread, hgrowth] at htears
  rcases htears with ⟨hdiagnostic, -⟩ | ⟨-, hreads⟩
  · cases hdiagnostic
  · cases hreads with
    | header _ hdiagnostic => cases hdiagnostic
    | length _ _ hdiagnostic => cases hdiagnostic
    | reserve _ hfails => cases hfails
    | growth _ hfails => cases hfails
    | payload _ _ hdiagnostic => cases hdiagnostic

omit [Kernel] in
/-- The header of a response is received and no storage can be reserved for its payload. The call
throws, the client is still connected, and the payload of the response is what its next call will
read as a header. -/
theorem client_out_of_step :
    letI := sampleKernel
    ∃ client link',
      (Client.connect (sampleLink [[1, 2, 3]])).after
        [((default : Request), { CallFaults.none with growth := some 0 })] = some client ∧
      client.link = some link' ∧ link'.incoming.stream = [1, 2, 3] ∧
      ¬ InStep (sampleLink [[1, 2, 3]]).incoming.stream link' := by
  let _ : Kernel := sampleKernel
  have hrequest : InRange [3, 0, 1, 0, 0, 0, 0, 0, 0, 0, 8] := by decide
  have hconsumed : ¬ FrameBegins [0, 0, 0, 3] := fun hbegins => absurd hbegins.length_lt (by decide)
  have hstep : InStep (sampleLink [[1, 2, 3]]).incoming.stream (sampleLink [[1, 2, 3]]) :=
    ⟨[], [], by simp, by simp, rfl, rfl, rfl⟩
  exact ⟨_, _, rfl, rfl, rfl, Torn.not_inStep (.intro hrequest (List.prefix_refl _)
    (frame_ne_nil _) rfl hconsumed rfl) hstep⟩

end Runs

end PhotospiderDaemon.Ipc
