import PhpHooks.Corpus.Descriptor

set_option autoImplicit false

/-!
The hooks that come with the tool.
-/
namespace PhpHooks.Bundled

def since (version : String) : DescriptorTag :=
  ⟨"since".toList, version.toList, none⟩

def param (type content : String) : DescriptorTag :=
  ⟨"param".toList, content.toList, some [type.toList]⟩

def hook (name : String) (kind : HookKind) (file : String) (aliases : List String)
    (description : String) (tags : List DescriptorTag) : Descriptor :=
  { name := name.toList
    kind
    file := some file.toList
    aliases := aliases.map String.toList
    description := description.toList
    longDescription := []
    tags }

def actions : List Descriptor :=
  [hook "init" .action "wp-settings.php" []
      "Fires after WordPress has finished loading but before any headers are sent."
      [since "1.5.0"],
    hook "save_post" .action "wp-includes/post.php" []
      "Fires once a post has been saved."
      [since "1.5.0",
        param "int"
          "Post ID.",
        param "\\WP_Post"
          "Post object.",
        param "bool"
          "Whether this is an existing post being updated."],
    hook "wp_enqueue_scripts" .action "wp-includes/script-loader.php" []
      "Fires when scripts and styles are enqueued."
      [since "2.8.0"],
    hook "wp_login" .action "wp-includes/user.php" []
      "Fires after the user has successfully logged in."
      [since "1.5.0",
        param "string"
          "Username.",
        param "\\WP_User"
          "WP_User object of the logged-in user."],
    hook "pre_get_posts" .actionReference "wp-includes/class-wp-query.php" []
      "Fires after the query variable object is created, but before the actual query is run."
      [since "2.0.0",
        param "\\WP_Query"
          "The WP_Query instance (passed by reference)."],
    hook "delete_post" .action "wp-includes/post.php" ["deleted_post"]
      "Fires before a post is deleted, at the start of wp_delete_post()."
      [param "int"
          "Post ID.",
        param "\\WP_Post"
          "Post object."]]

def filters : List Descriptor :=
  [hook "the_content" .filter "wp-includes/post-template.php" []
      "Filters the post content."
      [since "0.71",
        param "string"
          "Content of the current post."],
    hook "the_title" .filter "wp-includes/post-template.php" []
      "Filters the post title."
      [param "string"
          "The post title.",
        param "int"
          "The post ID."],
    hook "body_class" .filter "wp-includes/post-template.php" []
      "Filters the list of CSS body class names for the current post or page."
      [param "string[]"
          "An array of body class names.",
        param "string[]"
          "An array of additional class names added to the body."],
    hook "wp_insert_post_data" .filter "wp-includes/post.php" []
      "Filters slashed post data just before it is inserted into the database."
      [param "array"
          "An array of slashed, sanitized, and processed post data.",
        param "array"
          "An array of sanitized (and slashed) but otherwise unmodified post data.",
        param "array"
          ("An array of slashed yet *unsanitized* and unprocessed post data as originally " ++
            "passed to wp_insert_post()."),
        param "bool"
          "Whether this is an existing post being updated."],
    hook "excerpt_length" .filter "wp-includes/formatting.php" []
      "Filters the maximum number of words in a post excerpt."
      [param "int"
          "The maximum number of words. Default 55."],
    hook "wp_mail" .filter "wp-includes/pluggable.php" []
      "Filters the wp_mail() arguments."
      [param "array"
          (String.intercalate "\n" [
            "\x7b",
            "    Array of the `wp_mail()` arguments.",
            "",
            "    @type string|string[] $to          Array or comma-separated list of email " ++
              "addresses to send message.",
            "    @type string          $subject     Email subject.",
            "    @type string          $message     Message contents.",
            "    @type string|string[] $headers     Additional headers.",
            "    @type string|string[] $attachments Paths to files to attach.",
            "\x7d"])]]

end PhpHooks.Bundled
