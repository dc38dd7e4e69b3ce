import CredentialWallet.Url.Percent
/-!
# Forms

A form is a list of names and values. A space is written as a plus sign; letters, digits and four marks
stay; every other byte is escaped.
-/

namespace CredentialWallet

abbrev Form := List (String × String)

namespace Form

/-- Characters that a form writes as escapes. The space is not one of them. -/
def escaped (c : Char) : Bool := !(c.isAlphanum || "*-._ ".toList.contains c)

/-- A name or a value. -/
def component (s : String) : List Char :=
  (Url.encode escaped s.toList).map fun c => if c = ' ' then '+' else c

def fieldText (field : String × String) : List Char :=
  component field.1 ++ '=' :: component field.2

/-- The text of a form. -/
def text (form : Form) : String := String.ofList (['&'].intercalate (form.map fieldText))

end Form

end CredentialWallet
