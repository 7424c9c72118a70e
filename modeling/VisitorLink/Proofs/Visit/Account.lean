import VisitorLink.Proofs.Visit.Aside

/-!
# The pieces of the account

What each piece of the operations on the account and of the opening of a visit does to the visit,
and where it stops. All of them end where they do not wait for the session, and the records that
they put in place are quiet changes, except those of a log-in and of a log-out.
-/

namespace VisitorLink.Errand

variable {α β : Type}

/-- That a piece of an errand ends it and changes the state quietly. -/
def EndsQuietly (errand : Errand α) (visit : Visit) : Prop :=
  ∃ result after, run errand visit = (.finished result, after) ∧ visit.state.Drifts after.state

/-- An errand that is done ends quietly. -/
theorem endsQuietly_pure (result : α) (visit : Visit) : EndsQuietly (pure result) visit :=
  ⟨result, visit, rfl, .refl⟩

/-- One errand after another ends quietly if both do. -/
theorem EndsQuietly.bind {errand : Errand α} {visit : Visit} (ends : EndsQuietly errand visit)
    {rest : α → Errand β} (after : ∀ result visit, EndsQuietly (rest result) visit) :
    EndsQuietly (errand >>= rest) visit := by
  obtain ⟨result, middle, stops, drifts⟩ := ends
  obtain ⟨last, final, stops', drifts'⟩ := after result middle
  exact ⟨last, final, (run_bind_of_finished stops rest).trans stops', drifts.trans drifts'⟩

/-- Renaming its result makes an errand no louder. -/
theorem EndsQuietly.map {errand : Errand α} {visit : Visit} (ends : EndsQuietly errand visit)
    (rename : α → β) : EndsQuietly (rename <$> errand) visit :=
  ends.bind fun result visit => endsQuietly_pure (rename result) visit

/-- A quiet change ends quietly. -/
theorem endsQuietly_apply {change : Change} (quiet : change.isQuiet = true) (visit : Visit) :
    EndsQuietly (apply change) visit :=
  ⟨(), _, rfl, .of_change visit.state change quiet⟩

/-- A notice changes nothing of the state. -/
theorem endsQuietly_notify (level : NoticeLevel) (message : String) (visit : Visit) :
    EndsQuietly (notify level message) visit :=
  ⟨(), _, rfl, by rw [Visit.emit_state]; exact .refl⟩

/-- A step that leaves the state alone. -/
theorem endsQuietly_modify (change : Visit → Visit)
    (same : ∀ visit, (change visit).state = visit.state) (visit : Visit) :
    EndsQuietly (modify change) visit :=
  ⟨(), _, rfl, by rw [same]; exact .refl⟩

/-- Asking which visitor is loaded changes nothing. -/
theorem endsQuietly_isVisitor (id : String) (visit : Visit) : EndsQuietly (isVisitor id) visit :=
  ⟨_, visit, rfl, .refl⟩

/-- An operation on the slots leaves the state as it is. -/
theorem endsQuietly_slots (operation : StorageM α) (visit : Visit) :
    EndsQuietly (slots operation) visit :=
  ⟨_, _, rfl, .refl⟩

/-- Giving up a log-in is quiet. -/
theorem cancelLogin_endsQuietly (visit : Visit) : EndsQuietly cancelLogin visit :=
  ⟨(), _, rfl, .of_change visit.state .cancelLogin rfl⟩

/-- Dropping the connection is quiet. -/
theorem disconnect_endsQuietly (visit : Visit) : EndsQuietly disconnect visit :=
  ⟨(), _, rfl, .of_change visit.state .disconnect rfl⟩

/-! ## Wallets of the record -/

/-- A failed update is told and changes nothing. -/
theorem failUpdate_endsQuietly (reason : String) (visit : Visit) :
    EndsQuietly (failUpdate reason) visit :=
  (endsQuietly_notify _ _ visit).bind fun _ visit => endsQuietly_pure _ visit

/-- The answer to a removal is settled quietly, in time or late. -/
theorem receiveUnlinked_endsQuietly (id address : String) (answer : Except ApiError Visitor)
    (visit : Visit) : EndsQuietly (receiveUnlinked id address answer) visit := by
  cases answer with
  | error error => exact failUpdate_endsQuietly _ visit
  | ok visitor =>
      refine (endsQuietly_isVisitor id visit).bind fun same visit => ?_
      cases same with
      | false => exact endsQuietly_pure _ visit
      | true =>
          let forget : Visit → Visit := fun visit =>
            { visit with attempted := visit.attempted.filter (· != address) }
          refine (endsQuietly_modify forget (fun _ => rfl) visit).bind fun _ visit => ?_
          refine (endsQuietly_apply rfl visit).bind fun _ visit => ?_
          exact (endsQuietly_notify _ _ visit).bind fun _ visit => endsQuietly_pure _ visit

/-- A signature for the removal of a wallet is sent on, whoever the visitor is by then. -/
theorem run_receiveUnlinkSignature_ok (id address message signature : String) (visit : Visit) :
    run (receiveUnlinkSignature id address message (.ok signature)) visit =
      (.calling (.service (.unlinkWallet id address ⟨message, signature⟩))
          (receiveUnlinked id address),
        visit.inquire (.call (.service (.unlinkWallet id address ⟨message, signature⟩)))) := rfl

/-- Unlinking asks the wallet to sign, if a visitor is loaded and the provider signs. -/
theorem run_unlink (address : String) (visit : Visit) :
    run (unlink address) visit =
      match visit.state.visitorId? with
      | none => (.finished (.error .noIdentity), visit)
      | some id =>
          if visit.outside.providerSigns then
            (.calling (.provider (.signMessage (challenge .unlink address visit.outside.time)))
                (receiveUnlinkSignature id address
                  (challenge .unlink address visit.outside.time)),
              visit.inquire (.call (.provider
                (.signMessage (challenge .unlink address visit.outside.time)))))
          else (.finished (.error .signatureUnavailable), visit) := by
  unfold unlink
  rw [run_visit_bind]
  cases visit.state.visitorId? with
  | none => rfl
  | some id =>
      dsimp only
      rw [run_ite]
      cases visit.outside.providerSigns <;> rfl

/-- The answer to a choice of the primary wallet is settled quietly. -/
theorem receivePrimary_endsQuietly (id : String) (answer : Except ApiError Visitor)
    (visit : Visit) : EndsQuietly (receivePrimary id answer) visit := by
  cases answer with
  | error error => exact failUpdate_endsQuietly _ visit
  | ok visitor =>
      refine (endsQuietly_isVisitor id visit).bind fun same visit => ?_
      cases same with
      | false => exact endsQuietly_pure _ visit
      | true => exact (endsQuietly_apply rfl visit).bind fun _ visit => endsQuietly_pure _ visit

/-- Making a wallet the primary one asks the service, if a visitor is loaded. -/
theorem run_setPrimary (address : String) (visit : Visit) :
    run (setPrimary address) visit =
      match visit.state.visitorId? with
      | none => (.finished (.error .noIdentity), visit)
      | some id =>
          (.calling (.service (.setPrimaryWallet id address)) (receivePrimary id),
            visit.inquire (.call (.service (.setPrimaryWallet id address)))) := by
  unfold setPrimary
  rw [run_visit_bind]
  cases visit.state.visitorId? <;> rfl

/-! ## Logging in and out -/

/-- Logging in asks the service, if a visitor is loaded. -/
theorem run_logIn (visit : Visit) :
    run logIn visit =
      match visit.state.visitorId? with
      | none => (.finished (.error .noIdentity), visit)
      | some id =>
          (.calling (.service (.logIn id)) (receiveLogIn id),
            visit.inquire (.call (.service (.logIn id)))) := by
  unfold logIn
  rw [run_visit_bind]
  cases visit.state.visitorId? <;> rfl

/-- A refused log-in is told and changes nothing. -/
theorem run_receiveLogIn_error (id : String) (error : ApiError) (visit : Visit) :
    run (receiveLogIn id (.error error)) visit =
      (.finished (.error (.loginFailed error.userMessage)),
        visit.emit (.notice .error ("Login failed: " ++ error.userMessage))) := rfl

/-- An accepted log-in is taken over while its visitor is loaded. -/
theorem run_receiveLogIn_ok (id : String) (visitor : Visitor) (visit : Visit) :
    run (receiveLogIn id (.ok visitor)) visit =
      (.finished (.ok ()),
        if visit.state.visitorId? = some id then visit.apply (.logIn visitor) else visit) := by
  unfold receiveLogIn
  rw [run_isVisitor_bind, run_ite]
  simp only [beq_iff_eq]
  split <;> rfl

/-- Logging out asks the service, if a visitor is loaded. -/
theorem run_logOut (visit : Visit) :
    run logOut visit =
      match visit.state.visitorId? with
      | none => (.finished (.error .noIdentity), visit)
      | some id =>
          (.calling (.service (.logOut id)) (receiveLogOut id),
            visit.inquire (.call (.service (.logOut id)))) := by
  unfold logOut
  rw [run_visit_bind]
  cases visit.state.visitorId? <;> rfl

/-- A refused log-out is told and changes nothing. -/
theorem run_receiveLogOut_error (id : String) (error : ApiError) (visit : Visit) :
    run (receiveLogOut id (.error error)) visit =
      (.finished (.error (.logoutFailed error.userMessage)),
        visit.emit (.notice .error ("Logout failed: " ++ error.userMessage))) := rfl

/-- An accepted log-out is taken over by its visitor, and drops the connection in any case. -/
theorem run_receiveLogOut_ok (id : String) (visitor : Visitor) (visit : Visit) :
    run (receiveLogOut id (.ok visitor)) visit =
      (.finished (.ok ()),
        { (if visit.state.visitorId? = some id then visit.apply (.logOut visitor) else visit).apply
            .disconnect with attempted := [] }) := by
  unfold receiveLogOut
  rw [run_isVisitor_bind, run_ite]
  simp only [beq_iff_eq]
  split <;> rfl

/-- What follows a log-out leaves the state. -/
theorem run_followLogOut (outcome : Except LinkError Unit) (visit : Visit) :
    ∃ after, run (followLogOut outcome) visit = (.finished outcome, after) ∧
      after.state = visit.state := by
  cases outcome with
  | error error => exact ⟨visit, rfl, rfl⟩
  | ok done => exact ⟨_, rfl, rfl⟩

/-! ## Opening -/

/-- A record is taken up quietly, whether its id can be kept or not. -/
theorem adopt_endsQuietly (id : String) (visitor : Visitor) (visit : Visit) :
    EndsQuietly (adopt id visitor) visit := by
  unfold adopt
  split
  · exact endsQuietly_pure _ visit
  · exact endsQuietly_slots _ visit

/-- The answer to a request for the record is settled quietly. -/
theorem receiveVisitor_endsQuietly (id : String) (answer : Except ApiError Visitor)
    (visit : Visit) : EndsQuietly (receiveVisitor id answer) visit := by
  cases answer with
  | error error => exact endsQuietly_pure _ visit
  | ok visitor =>
      refine (adopt_endsQuietly id visitor visit).bind fun kept visit => ?_
      cases kept with
      | error error => exact endsQuietly_pure _ visit
      | ok done =>
          exact (endsQuietly_apply rfl visit).bind fun _ visit => endsQuietly_pure _ visit

/-- Finding out who the visitor is fails at the slots or asks the service for a record. -/
theorem run_identify (visit : Visit) :
    (∃ result after, run identify visit = (.finished result, after) ∧
        after.state = visit.state) ∨
      ∃ id after, run identify visit =
          (.calling (.service (.fetchVisitor id)) (receiveVisitor id), after) ∧
        after.state = visit.state := by
  unfold identify
  rw [run_visit_bind, run_slots_bind]
  cases (StorageM.on (RememberedId.loadOrCreate
    (Uuid.ofRandom visit.outside.random).hyphenated) visit.storage).1 with
  | error error => exact .inl ⟨_, _, rfl, rfl⟩
  | ok id => exact .inr ⟨id, _, rfl, rfl⟩

/-- Detecting the provider is quiet. -/
theorem detect_endsQuietly (visit : Visit) : EndsQuietly detect visit := by
  unfold detect
  rw [EndsQuietly, run_lookForProvider_bind, run_visit_bind]
  dsimp only
  split
  · exact ⟨_, _, rfl, .of_change visit.state (.detect visit.outside.providerPresent) rfl⟩
  · exact ⟨_, _, rfl, .refl⟩

end VisitorLink.Errand
