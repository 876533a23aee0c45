import EdgePlane.Proofs.Part

/-!
# The accounts of a management interface

Registering a user, logging in and changing a password succeed only for good reason, and only they
change whom an interface knows. Any call may fail.
-/

namespace EdgePlane

open Management

/-- Whom a management interface knows: users with their passwords, and whose tokens were given out. -/
structure Accounts where
  users : Dict String String := {}
  tokens : Dict String String := {}

/-- The accounts after a password was changed by the holder of a token. -/
def Accounts.change (s : Accounts) (token new : String) : Accounts :=
  match s.tokens.get? token with
  | some email => { s with users := s.users.insert email new }
  | none => s

namespace Part

/-- The accounts of the interface at a URL. -/
def accountsAt (url : String) : Part Accounts where
  after s
    | ⟨.signUp u r, .ok _⟩ =>
      if u = url then { s with users := s.users.insert r.email r.password } else s
    | ⟨.logIn u r, .ok answer⟩ =>
      if u = url then { s with tokens := s.tokens.insert answer.accessToken r.email } else s
    | ⟨.changePassword u token r, .ok _⟩ => if u = url then s.change token r.newPassword else s
    | _ => s
  Fits s
    | ⟨.signUp u r, .ok _⟩ => u = url → s.users.get? r.email = none
    | ⟨.logIn u r, .ok _⟩ => u = url → s.users.get? r.email = some r.password
    | ⟨.changePassword u token r, .ok _⟩ => u = url →
      ∃ email, s.tokens.get? token = some email ∧ s.users.get? email = some r.oldPassword
    | _ => True

/-- The accounts of an interface that refuses no password that is right. -/
def reliableAccountsAt (url : String) : Part Accounts where
  after := (accountsAt url).after
  Fits s e := (accountsAt url).Fits s e ∧
    match e with
    | ⟨.logIn u r, .error _⟩ => u = url → s.users.get? r.email ≠ some r.password
    | _ => True

/-- The router that is registered at the interface of a URL. -/
def routerAt (url : String) : Part (Option DefaultRouter) where
  after old
    | ⟨.putRouter u _ router, .ok _⟩ => if u = url then some router else old
    | _ => old
  Fits _ _ := True

end Part

/-- Whether a call can change whom the interface at a URL knows or which router it has. -/
def Call.isAccountAt (url : String) : Call → Bool
  | .signUp u _ => u = url
  | .logIn u _ => u = url
  | .changePassword u _ _ => u = url
  | .putRouter u _ _ => u = url
  | _ => false

namespace Part

variable {url : String} {e : Event}

section Events

variable (s : Accounts)

@[simp] theorem accountsAt_signUp (r : SignUp) (u : Unit) :
    (accountsAt url).after s ⟨.signUp url r, .ok u⟩ =
      { s with users := s.users.insert r.email r.password } := if_pos rfl

@[simp] theorem accountsAt_signUp_error (r : SignUp) (e : ApiError) :
    (accountsAt url).after s ⟨.signUp url r, .error e⟩ = s := rfl

@[simp] theorem accountsAt_logIn (r : LogIn) (answer : AccessToken) :
    (accountsAt url).after s ⟨.logIn url r, .ok answer⟩ =
      { s with tokens := s.tokens.insert answer.accessToken r.email } := if_pos rfl

@[simp] theorem accountsAt_logIn_error (r : LogIn) (e : ApiError) :
    (accountsAt url).after s ⟨.logIn url r, .error e⟩ = s := rfl

@[simp] theorem accountsAt_changePassword (token : String) (r : PasswordChange) (u : Unit) :
    (accountsAt url).after s ⟨.changePassword url token r, .ok u⟩ =
      s.change token r.newPassword := if_pos rfl

@[simp] theorem accountsAt_changePassword_error (token : String) (r : PasswordChange)
    (e : ApiError) : (accountsAt url).after s ⟨.changePassword url token r, .error e⟩ = s := rfl

@[simp] theorem accountsAt_putRouter (u token : String) (router : DefaultRouter)
    (r : Except ApiError Unit) : (accountsAt url).after s ⟨.putRouter u token router, r⟩ = s := rfl

end Events

theorem accountsAt_ignores (h : e.call.isAccountAt url = false) : (accountsAt url).Ignores e := by
  intro s
  obtain ⟨c, r⟩ := e
  cases c <;> first | rfl | (simp only [Call.isAccountAt, decide_eq_false_iff_not] at h
                             cases r <;> simp [accountsAt, h])

theorem routerAt_ignores (h : e.call.isAccountAt url = false) : (routerAt url).Ignores e := by
  intro s
  obtain ⟨c, r⟩ := e
  cases c <;> first | rfl | (simp only [Call.isAccountAt, decide_eq_false_iff_not] at h
                             cases r <;> simp [routerAt, h])

theorem reliableAccountsAt_fits (h : e.call.isAccountAt url = false) (s : Accounts) :
    (reliableAccountsAt url).Fits s e := by
  obtain ⟨c, r⟩ := e
  cases c <;> first
    | exact ⟨trivial, trivial⟩
    | (simp only [Call.isAccountAt, decide_eq_false_iff_not] at h
       cases r <;> simp [reliableAccountsAt, accountsAt, h])

end Part

end EdgePlane
