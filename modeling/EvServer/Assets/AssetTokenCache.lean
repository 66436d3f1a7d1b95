import EvServer.Lib.Runs
import EvServer.Utils

/-!
# The tokens of the providers of assets (`AssetTokenCache`)

The WIT and the Iothink connections of a tenant share a cache of tokens.  A token is looked
up under the ID of the connection followed by its user and its password, and it is stored
under the ID alone.

A run takes retrievals, changes of the settings and the passing of time in any order.  What is
asked of the providers and what is used of them is recorded, the newest first.
-/

namespace EvServer

/-- `AssetConnectionToken`; `expires` is `none` when it is not a date. -/
structure AssetConnectionToken where
  accessToken : String
  tokenType : String
  expiresIn : ℤ
  userName : Option String := none
  issued : Option Timestamp
  expires : Option Timestamp
  deriving DecidableEq, Repr

/-- The token is valid for at least 60 more seconds. -/
def AssetConnectionToken.IsValidAt (now : Timestamp) (token : AssetConnectionToken) : Prop :=
  ∃ expires, token.expires = some expires ∧ now + 60000 ≤ expires

namespace AssetTokenCache

/-- An invalid date is never before now. -/
def isUsable (now : Timestamp) (token : AssetConnectionToken) : Bool :=
  token.expires.all fun expires => ¬ expires - 60000 < now

def getToken (tokens : String → Option AssetConnectionToken) (now : Timestamp)
    (assetConnectionId : String) : Option AssetConnectionToken :=
  (tokens assetConnectionId).filter (isUsable now)

def setToken (tokens : String → Option AssetConnectionToken) (assetConnectionId : String)
    (token : AssetConnectionToken) : String → Option AssetConnectionToken :=
  Function.update tokens assetConnectionId (some token)

end AssetTokenCache

/-- `AssetUserPasswordConnectionType`. -/
structure AssetUserPasswordConnection where
  user : String
  password : String
  deriving DecidableEq, Repr

/-- `AssetWitConnectionType`. -/
structure AssetWitConnection extends AssetUserPasswordConnection where
  clientId : String
  clientSecret : String
  authenticationUrl : String
  deriving DecidableEq, Repr

/-- The connections that use the cache. -/
inductive AssetConnection
  | iothink (iothinkConnection : AssetUserPasswordConnection)
  | wit (witConnection : AssetWitConnection)
  deriving DecidableEq, Repr

def AssetConnection.userPassword : AssetConnection → AssetUserPasswordConnection
  | .iothink iothinkConnection => iothinkConnection
  | .wit witConnection => witConnection.toAssetUserPasswordConnection

/-- `AssetConnectionSetting`. -/
structure AssetConnectionSetting where
  id : String
  url : String
  connection : AssetConnection
  deriving DecidableEq, Repr

namespace AssetConnectionSetting

/-- What the token is looked up under. -/
def key (setting : AssetConnectionSetting) : String :=
  setting.id ++ setting.connection.userPassword.user ++ setting.connection.userPassword.password

/-- Where a token is requested. -/
def tokenUrl (setting : AssetConnectionSetting) : String :=
  match setting.connection with
  | .iothink _ => setting.url ++ "/token"
  | .wit witConnection => witConnection.authenticationUrl ++ "/token"

/-- `getCredentialURLParams`. -/
def getCredentialURLParams (decrypt : String → String) (setting : AssetConnectionSetting) :
    List (String × String) :=
  match setting.connection with
  | .iothink iothinkConnection =>
      [("grant_type", "password"), ("username", iothinkConnection.user),
        ("password", decrypt iothinkConnection.password)]
  | .wit witConnection =>
      [("client_id", witConnection.clientId),
        ("client_secret", decrypt witConnection.clientSecret), ("grant_type", "password"),
        ("username", witConnection.user), ("password", decrypt witConnection.password),
        ("scope", "https://api.wit-datacenter.com")]

/-- What a token is obtained with. -/
def credentials (decrypt : String → String) (setting : AssetConnectionSetting) :
    String × List (String × String) :=
  (setting.tokenUrl, setting.getCredentialURLParams decrypt)

end AssetConnectionSetting

namespace AssetTokenCache

/-- What a provider answers; a date of Iothink that cannot be read is `none`. -/
structure TokenResponse where
  access_token : String
  token_type : String
  expires_in : ℤ
  userName : Option String := none
  issued : Option Timestamp := none
  expires : Option Timestamp := none
  deriving DecidableEq, Repr

/-- `fetchAssetProviderToken`, of the answer that comes at the same time. -/
def fetchAssetProviderToken (now : Timestamp) (setting : AssetConnectionSetting)
    (response : TokenResponse) : AssetConnectionToken where
  accessToken := response.access_token
  tokenType := response.token_type
  expiresIn := response.expires_in
  userName := match setting.connection with
    | .iothink _ => response.userName
    | .wit _ => none
  issued := match setting.connection with
    | .iothink _ => response.issued
    | .wit _ => some now
  expires := match setting.connection with
    | .iothink _ => response.expires
    | .wit _ => some (now + response.expires_in * 1000)

/-! ## Runs -/

/-- What is recorded. -/
inductive Event
  /-- A token is requested for a connection; the provider may fail. -/
  | requested (connectionID : String) (credentials : String × List (String × String))
      (time : Timestamp) (token : Option AssetConnectionToken)
  /-- A token is used by a connection that has these credentials. -/
  | used (credentials : String × List (String × String)) (token : AssetConnectionToken)
  deriving DecidableEq, Repr

/-- The settings of a tenant, its cache and what has happened. -/
structure State where
  now : Timestamp
  connections : List AssetConnectionSetting
  tokens : String → Option AssetConnectionToken
  events : List Event

/-- The server starts with an empty cache. -/
def State.start (now : Timestamp) (connections : List AssetConnectionSetting) : State :=
  { now, connections, tokens := fun _ => none, events := [] }

inductive Action
  /-- `retrieveConsumptions` of an asset of the connection, with the answer of the provider if it
  is asked for a token. -/
  | retrieve (connectionID : String) (response : Option TokenResponse)
  | saveSettings (connections : List AssetConnectionSetting)
  | pass (milliseconds : ℕ)
  deriving DecidableEq, Repr

/-- `AssetFactory.getAssetImpl`: the connection of the settings. -/
def State.find (s : State) (connectionID : String) : Option AssetConnectionSetting :=
  s.connections.find? fun connection => connection.id = connectionID

section

variable (decrypt : String → String)

/-- `connect`, and the request with the token. -/
def connect (s : State) (setting : AssetConnectionSetting) (response : Option TokenResponse) :
    State :=
  match getToken s.tokens s.now setting.key with
  | some token => { s with events := .used (setting.credentials decrypt) token :: s.events }
  | none =>
      let token := response.map (fetchAssetProviderToken s.now setting)
      let events := .requested setting.id (setting.credentials decrypt) s.now token :: s.events
      match token with
      | some token =>
          { s with
            tokens := setToken s.tokens setting.id token
            events := .used (setting.credentials decrypt) token :: events }
      | none => { s with events }

def next (s : State) : Action → State
  | .retrieve connectionID response =>
      match s.find connectionID with
      | some setting => connect decrypt s setting response
      | none => s
  | .saveSettings connections => { s with connections }
  | .pass milliseconds => { s with now := s.now + milliseconds }

/-- The steps of a server. -/
def Step (s : State) (action : Action) (t : State) : Prop := next decrypt s action = t

end

/-! ## What a run may do -/

/-- A token has been obtained with the credentials. -/
def Obtained (events : List Event) (credentials : String × List (String × String))
    (token : AssetConnectionToken) : Prop :=
  ∃ connectionID time, .requested connectionID credentials time (some token) ∈ events

/-- A token is requested when there is no valid one for the credentials, and it is used for the
credentials it has been obtained with. -/
def Event.IsRight (older : List Event) : Event → Prop
  | .requested _ credentials time _ =>
      ∀ token, Obtained older credentials token → ¬ token.IsValidAt time
  | .used credentials token => Obtained older credentials token

/-- Every event is right, after those before it. -/
def Coherent : List Event → Prop
  | [] => True
  | event :: older => event.IsRight older ∧ Coherent older

/-- The token that was last obtained for a connection. -/
def lastObtained (events : List Event) (connectionID : String) : Option AssetConnectionToken :=
  events.findSome? fun
    | .requested connectionID' _ _ token => if connectionID' = connectionID then token else none
    | .used _ _ => none

/-- A retrieval that comes when the last token of the connection whose ID is the key is usable
and was obtained with the same credentials, or else when no token obtained with them is valid. -/
def Fits (decrypt : String → String) (s : State) : Action → Prop
  | .retrieve connectionID _ => ∀ setting, s.find connectionID = some setting →
      match (lastObtained s.events setting.key).filter (isUsable s.now) with
      | some token => Obtained s.events (setting.credentials decrypt) token
      | none => ∀ token, Obtained s.events (setting.credentials decrypt) token →
          ¬ token.IsValidAt s.now
  | .saveSettings _ => True
  | .pass _ => True

variable {decrypt : String → String} {s t : State} {now : Timestamp}
variable {connections : List AssetConnectionSetting} {as : List Action}

/-! ### The cache -/

/-- The cache has the last token of every connection. -/
def HoldsLast (s : State) : Prop := ∀ connectionID,
  s.tokens connectionID = lastObtained s.events connectionID

theorem holdsLast_start : HoldsLast (State.start now connections) := fun _ => rfl

theorem holdsLast_connect (h : HoldsLast s) (setting : AssetConnectionSetting)
    (response : Option TokenResponse) : HoldsLast (connect decrypt s setting response) := by
  unfold connect
  cases getToken s.tokens s.now setting.key with
  | some token => exact h
  | none =>
      cases response with
      | none =>
          intro connectionID
          simpa [lastObtained] using h connectionID
      | some response =>
          intro connectionID
          by_cases same : connectionID = setting.id
          · subst same
            simp [lastObtained, setToken]
          · simpa [lastObtained, setToken, same, Ne.symm same] using h connectionID

theorem holdsLast_next (h : HoldsLast s) (action : Action) : HoldsLast (next decrypt s action) := by
  cases action with
  | retrieve connectionID response =>
      unfold next
      dsimp only
      cases s.find connectionID with
      | none => exact h
      | some setting => exact holdsLast_connect h setting response
  | saveSettings connections => exact h
  | pass milliseconds => exact h

theorem holdsLast_of_run (run : Transition.Run (Step decrypt) (State.start now connections) as t) :
    HoldsLast t := by
  refine run.invariant holdsLast_start fun s action t h step => ?_
  rw [← show next decrypt s action = t from step]
  exact holdsLast_next h action

/-! ### The retrievals -/

theorem coherent_connect_iff (h : HoldsLast s) (coherent : Coherent s.events)
    (setting : AssetConnectionSetting) (response : Option TokenResponse) :
    Coherent (connect decrypt s setting response).events ↔
      match (lastObtained s.events setting.key).filter (isUsable s.now) with
      | some token => Obtained s.events (setting.credentials decrypt) token
      | none => ∀ token, Obtained s.events (setting.credentials decrypt) token →
          ¬ token.IsValidAt s.now := by
  unfold connect
  rw [getToken, h setting.key]
  cases (lastObtained s.events setting.key).filter (isUsable s.now) with
  | some token => exact and_iff_left coherent
  | none =>
      cases response with
      | none => exact and_iff_left coherent
      | some response =>
          have obtained : Obtained (.requested setting.id (setting.credentials decrypt) s.now
              (some (fetchAssetProviderToken s.now setting response)) :: s.events)
              (setting.credentials decrypt) (fetchAssetProviderToken s.now setting response) :=
            ⟨setting.id, s.now, List.mem_cons_self⟩
          exact (and_iff_right obtained).trans (and_iff_left coherent)

theorem coherent_next_iff (h : HoldsLast s) (coherent : Coherent s.events) (action : Action) :
    Coherent (next decrypt s action).events ↔ Fits decrypt s action := by
  cases action with
  | retrieve connectionID response =>
      unfold next Fits
      dsimp only
      cases s.find connectionID with
      | none => simpa using coherent
      | some setting => simpa using coherent_connect_iff h coherent setting response
  | saveSettings connections => exact iff_of_true coherent trivial
  | pass milliseconds => exact iff_of_true coherent trivial

/-- What has happened stays recorded. -/
theorem suffix_next (s : State) (action : Action) :
    s.events <:+ (next decrypt s action).events := by
  cases action with
  | retrieve connectionID response =>
      unfold next
      dsimp only
      cases s.find connectionID with
      | none => exact List.suffix_refl _
      | some setting =>
          dsimp only [connect]
          cases getToken s.tokens s.now setting.key with
          | some token => exact List.suffix_cons _ _
          | none =>
              cases response with
              | none => exact List.suffix_cons _ _
              | some response => exact (List.suffix_cons _ _).trans (List.suffix_cons _ _)
  | saveSettings connections => exact List.suffix_refl _
  | pass milliseconds => exact List.suffix_refl _

theorem Coherent.of_suffix {older events : List Event} (coherent : Coherent events)
    (suffix : older <:+ events) : Coherent older := by
  induction events with
  | nil => rwa [List.suffix_nil.mp suffix]
  | cons event events ih =>
      rcases List.suffix_cons_iff.mp suffix with rfl | suffix
      · exact coherent
      · exact ih coherent.2 suffix

/-- The runs in which all tokens are requested and used right are those whose retrievals fit. -/
theorem coherent_run_iff (decrypt : String → String) (now : Timestamp)
    (connections : List AssetConnectionSetting) (as : List Action) (t : State) :
    Transition.Run (Step decrypt) (State.start now connections) as t ∧ Coherent t.events ↔
      Transition.Run (Transition.guarded (Fits decrypt) (Step decrypt))
        (State.start now connections) as t := by
  constructor
  · rintro ⟨run, coherent⟩
    induction run with
    | refl => exact .refl
    | @snoc as s t action run step ih =>
        have taken : next decrypt s action = t := step
        rw [← taken] at coherent
        have before := coherent.of_suffix (suffix_next s action)
        have fits := (coherent_next_iff (holdsLast_of_run run) before action).mp coherent
        exact .snoc (ih before) ⟨fits, step⟩
  · intro run
    refine ⟨run.of_guarded, ?_⟩
    induction run with
    | refl => exact trivial
    | @snoc as s t action run step ih =>
        obtain ⟨fits, taken⟩ := step
        rw [← show next decrypt s action = t from taken]
        exact (coherent_next_iff (holdsLast_of_run run.of_guarded) ih action).mpr fits

/-- An answer of WIT with a token for an hour. -/
private def hourToken : TokenResponse where
  access_token := "T"
  token_type := "bearer"
  expires_in := 3600

/-- A connection to WIT. -/
private def witSetting : AssetConnectionSetting where
  id := "C1"
  url := "https://wit.example"
  connection := .wit ⟨⟨"user", "secret"⟩, "client", "clientSecret", "https://auth.wit.example"⟩

/-- A token for an hour is requested again after a minute. -/
theorem not_coherent_secondRetrieval : ¬ ∀ (decrypt : String → String) (now : Timestamp)
    (connections : List AssetConnectionSetting) (as : List Action) (t : State),
    Transition.Run (Step decrypt) (State.start now connections) as t → Coherent t.events := by
  intro coherent
  have run := coherent id 0 [witSetting] _ _ (((Transition.Run.single (a := .retrieve "C1"
    (some hourToken)) rfl).snoc (a := .pass 60000) rfl).snoc
      (a := .retrieve "C1" (some hourToken)) rfl)
  have again := run.2.1
  refine again (fetchAssetProviderToken 0 witSetting hourToken) ⟨"C1", 0, ?_⟩ ⟨3600000, rfl, ?_⟩
  · exact List.mem_cons_of_mem _ List.mem_cons_self
  · decide

end AssetTokenCache

end EvServer
