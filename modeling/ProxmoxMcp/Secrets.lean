/-
  File:      ProxmoxMcp/Secrets.lean
  Subject:   THE RUNTIME SECRETS (`secrets.ts`): the bundle of a cluster and what it configures.
-/
import ProxmoxMcp.Config
import ProxmoxMcp.Lib.Json

namespace ProxmoxMcp

open Js

/-! ## 1. Bundles -/

/-- The text of a host-key policy. -/
def HostKeyPolicy.text : HostKeyPolicy → String
  | .strict => "strict"
  | .accept_new => "accept-new"
  | .insecure => "insecure"
  | .unlisted text => text

/-- A text cast to a host-key policy. -/
def HostKeyPolicy.ofText (text : String) : HostKeyPolicy :=
  if text = "strict" then .strict
  else if text = "accept-new" then .accept_new
  else if text = "insecure" then .insecure
  else .unlisted text

@[simp] theorem HostKeyPolicy.text_ofText (text : String) : (ofText text).text = text := by
  unfold ofText
  split
  · rename_i h
    exact h.symm
  · split
    · rename_i h
      exact h.symm
    · split
      · rename_i h
        exact h.symm
      · rfl

/-- `ApiTokenSecretRecord`. -/
structure ApiTokenSecretRecord where
  user : String
  realm : String
  tokenId : String
  secret : String
  createdAt : Option String := none
  expiresAt : Option String := none
  deriving DecidableEq, Repr

/-- `ShellSshSecretRecord`. -/
structure ShellSshSecretRecord where
  username : String
  port : Option Nat := none
  privateKey : Option String := none
  privateKeyPath : Option String := none
  publicKey : Option String := none
  publicKeyPath : Option String := none
  passphrase : Option String := none
  expectedHostKey : String
  hostKeyPolicy : Option HostKeyPolicy := none
  shell : Option String := none
  prefixCommand : Option (List String) := none
  createdAt : Option String := none
  expiresAt : Option String := none
  deriving DecidableEq, Repr

/-- `RuntimeSecretBundle`. -/
structure RuntimeSecretBundle where
  cluster : String
  apiToken : Option ApiTokenSecretRecord := none
  shellSsh : Option ShellSshSecretRecord := none
  metadata : Option (List (String × String)) := none
  deriving DecidableEq, Repr

/-- `Boolean(text)` of a text that may be missing. -/
def isPresent (text : Option String) : Bool := text.any (· ≠ "")

/-- `apiTokenConfigured`. -/
def apiTokenConfigured (secret : Option RuntimeSecretBundle) : Bool :=
  (secret.bind RuntimeSecretBundle.apiToken).any fun token =>
    token.user ≠ "" && token.realm ≠ "" && token.tokenId ≠ "" && token.secret ≠ ""

/-- `shellSecretConfigured`. -/
def shellSecretConfigured (secret : Option RuntimeSecretBundle) : Bool :=
  (secret.bind RuntimeSecretBundle.shellSsh).any fun shell =>
    (isPresent shell.privateKey || isPresent shell.privateKeyPath) && shell.expectedHostKey ≠ ""

end ProxmoxMcp
