import IndexAdvisor.Sql.Utility.Part

/-! # Privileges

Statements that grant and revoke privileges and the membership in roles.
-/

namespace IndexAdvisor.Sql.Utility

open Parse Shape

def privilege : Shape :=
  ifNext "alter system" "alter system"
    (seq [oneOf [keywords "select references create", name], option [columns]])

def allPrivileges : Shape := seq ["all", option ["privileges"], option [columns]]

def privileges : Shape := oneOf [allPrivileges, list privilege]

def onKind (word : Shape) (things : Shape) : Shape :=
  ifSecond (fun lexeme => (freeWord? lexeme).isSome) (seq [word, list things]) (list table)

/-- The kinds of things that are told by one word, with the shape of each thing. -/
def targetKinds : List (String × Shape) :=
  [("sequence", table), ("function", routine), ("procedure", routine), ("routine", routine),
   ("database", name), ("domain", path), ("language", name),
   ("parameter", seq [name, .many (seq [".", name])]), ("schema", name), ("tablespace", name),
   ("type", path)]

def privilegeTarget : Shape :=
  oneOf [
    seq ["table", list table],
    seq ["foreign", oneOf ["data wrapper", "server"], list name],
    seq ["all", keywords "tables sequences functions procedures routines", "in schema",
      list name],
    ifNext "large object" (seq ["large object", list number])
      (targetKinds.foldr (fun (w, things) rest => ifNext w (onKind w things) rest)
        (list table))]

def grantees : Shape := list (seq [option ["group"], role])

def grantor : Shape := option ["granted by", role]

def grant : Shape :=
  seq ["grant", oneOf [
    seq [allPrivileges, onTarget],
    seq [list privilege, oneOf [onTarget,
      seq ["to", roles, option ["with", list (seq [label, keywords "option true false"])], grantor,
        .kind "GrantRoleStmt"]]]]]
where
  onTarget : Shape :=
    seq ["on", privilegeTarget, "to", grantees, option ["with grant option"], grantor,
      .kind "GrantStmt"]

def revocation : Shape :=
  seq ["revoke", oneOf [
    seq ["grant option for", privileges, fromTarget],
    ifSecond (isWord "option")
      (seq [name, "option for", list privilege, fromRoles])
      (oneOf [
        seq [allPrivileges, fromTarget],
        seq [list privilege, oneOf [fromTarget, fromRoles]]])]]
where
  fromTarget : Shape :=
    seq ["on", privilegeTarget, "from", grantees, grantor, behavior, .kind "GrantStmt"]
  fromRoles : Shape := seq ["from", roles, grantor, behavior, .kind "GrantRoleStmt"]

def defaultTarget : Shape :=
  oneOf [keywords "tables functions routines sequences types schemas", "large objects"]

def defaultPrivileges : Shape :=
  seq ["default privileges",
    .many (oneOf [seq ["in schema", list name], seq ["for", keywords "role user", roles]]),
    oneOf [
      seq ["grant", privileges, "on", defaultTarget, "to", grantees, option ["with grant option"]],
      seq ["revoke", option ["grant option for"], privileges, "on", defaultTarget, "from",
        grantees, behavior]],
    .kind "AlterDefaultPrivilegesStmt"]

end IndexAdvisor.Sql.Utility
