import DemandRouting.OpenRtb.Request
import DemandRouting.Text.Blank

namespace DemandRouting

open Text

-- The raw fields, each from its present place or from its old one.
structure ConsentSignals where
  gdpr : Option Int64 := none
  coppa : Option Int64 := none
  consentString : Option String := none
  usPrivacy : Option String := none
  gpp : Option String := none
  gppSid : List UInt32 := []
deriving DecidableEq

namespace ConsentSignals

-- A field that is present outranks its old place, whatever it holds.
def ofRequest (request : OpenRtb.BidRequest) : ConsentSignals where
  gdpr := request.regs.bind fun r => r.gdpr <|> r.ext.bind (·.gdpr)
  coppa := request.regs.bind (·.coppa)
  consentString := request.user.bind fun u => u.consent <|> u.ext.bind (·.consent)
  usPrivacy := request.regs.bind fun r => r.usPrivacy <|> r.ext.bind (·.usPrivacy)
  gpp := request.regs.bind (·.gpp)
  gppSid := (request.regs.map (·.gppSid)).getD []

end ConsentSignals

structure Consent where
  gdprApplies : Bool := false
  ccpaApplies : Bool := false
  coppaApplies : Bool := false
  gppApplies : Bool := false
  tcfConsent : Option String := none
  usPrivacy : Option String := none
  usPrivacyOptOut : Bool := false
  gppString : Option String := none
  gppSectionIds : List UInt32 := []
deriving DecidableEq, Inhabited

namespace Consent

-- The sections of the global privacy platform that stand for a regime.
def europeSection : UInt32 := 2
def americaSection : UInt32 := 6

-- The answers of a US privacy string of version 1: was notice given, did the user opt out, is the
-- agreement limited.
structure UsPrivacy where
  notice : Char
  optOut : Char
  limited : Char
deriving DecidableEq

def isFlag (c : Char) : Bool := c.toUpper == 'Y' || c.toUpper == 'N' || c == '-'

def UsPrivacy.ofText? (s : String) : Option UsPrivacy :=
  match s.toList with
  | ['1', notice, optOut, limited] =>
    if isFlag notice && isFlag optOut && isFlag limited then some ⟨notice, optOut, limited⟩
    else none
  | _ => none

-- The text without blanks around it, if anything is left.
def trimmed? (s : String) : Option String :=
  let t := trim s
  if t.isEmpty then none else some t

def ofSignals (s : ConsentSignals) : Consent :=
  let usPrivacy := s.usPrivacy.bind trimmed?
  let answers := usPrivacy.bind UsPrivacy.ofText?
  let gpp := s.gpp.bind trimmed?
  { gdprApplies := s.gdpr == some 1 || s.gppSid.contains europeSection
    ccpaApplies := answers.any (fun a => a.notice != '-') || s.gppSid.contains americaSection
    coppaApplies := s.coppa == some 1
    gppApplies := gpp.isSome
    tcfConsent := s.consentString.bind nonBlank?
    usPrivacy := usPrivacy
    usPrivacyOptOut := answers.any fun a => a.optOut.toUpper == 'Y'
    gppString := gpp
    gppSectionIds := s.gppSid }

end Consent
end DemandRouting
