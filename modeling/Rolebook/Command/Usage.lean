/-!
# How commands are given
-/

namespace Rolebook.Command

/-- The commands there are, in words. -/
def usage : String := "usage: keeper-admin <command>

commands:
  roles                                      list roles
  permissions                                list grantable permissions
  users                                      list users
  members <role>                             list users holding a role
  sync <role> [--dry-run] <user-id>...       set the exact member list of a role
  create-role <name> [<permission-id>...]    create a custom role
  delete-role <role>                         delete a custom role

<role> is a role id or a role name."

end Rolebook.Command
